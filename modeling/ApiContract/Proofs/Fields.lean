import ApiContract.Value
import Mathlib.Data.List.Induction

/-!
Fields with keys: what putting a field in, and writing fields one after the other, does to the keys
and to the value of a key. The last field that is written for a key counts (`lookup_fieldsOf`), no
key is there twice (`nodup_keys_fieldsOf`), keys keep the order in which they come up (`keys_fieldsOf`),
and fields whose keys differ stay as they are (`fieldsOf_of_nodup`).
-/

namespace ApiContract

variable {α β : Type}

/-- The keys of fields. -/
def keys (fields : List (String × α)) : List String := fields.map Prod.fst

@[simp] lemma keys_nil : keys ([] : List (String × α)) = [] := rfl

@[simp] lemma keys_cons (p : String × α) (fs : List (String × α)) :
    keys (p :: fs) = p.1 :: keys fs := rfl

@[simp] lemma keys_append (fs gs : List (String × α)) : keys (fs ++ gs) = keys fs ++ keys gs :=
  List.map_append

lemma mem_keys_of_mem {k : String} {v : α} {fs : List (String × α)} (h : (k, v) ∈ fs) :
    k ∈ keys fs :=
  List.mem_map_of_mem h

lemma lookup_pair (k j : String) (w : α) (fs : List (String × α)) :
    ((j, w) :: fs).lookup k = if k = j then some w else fs.lookup k := by
  rw [List.lookup_cons]
  by_cases h : k = j
  · simp [h]
  · rw [beq_false_of_ne h, if_neg h]

lemma mem_of_lookup_eq_some {k : String} {v : α} {fs : List (String × α)}
    (h : fs.lookup k = some v) : (k, v) ∈ fs := by
  obtain ⟨_, _, rfl, -⟩ := List.lookup_eq_some_iff.1 h
  exact List.mem_append_cons_self

/-- Where all of one key are left out, the values of the other keys stay. -/
lemma lookup_filter_bne {κ : Type} [BEq κ] [LawfulBEq κ] (fs : List (κ × α)) (j k : κ) :
    (fs.filter (·.1 != j)).lookup k = if k == j then none else fs.lookup k := by
  induction fs with
  | nil => simp
  | cons p fs ih =>
    obtain ⟨i, v⟩ := p
    by_cases hi : i = j
    · subst hi
      rw [List.filter_cons_of_neg (by simp), ih, List.lookup_cons]
      cases k == i <;> rfl
    · rw [List.filter_cons_of_pos (by simpa using hi), List.lookup_cons, List.lookup_cons, ih]
      cases hk : k == i with
      | false => rfl
      | true =>
        rw [eq_of_beq hk, beq_false_of_ne hi]
        rfl

/-! ### A field that may be there -/

lemma forall_mem_toList_map {o : Option α} {g : α → β} {p : β → Prop} (h : ∀ a ∈ o, p (g a)) :
    ∀ b ∈ (o.map g).toList, p b := by
  cases o with
  | none => exact nofun
  | some a => exact List.forall_mem_singleton.2 (h a rfl)

lemma keys_toList_map_sublist (k : String) (g : α → β) (o : Option α) :
    (keys (o.map fun a => (k, g a)).toList).Sublist [k] := by
  cases o with
  | none => exact List.nil_sublist _
  | some a => exact .refl _

/-! ### One field -/

lemma lookup_putField (k k' : String) (v : α) (fs : List (String × α)) :
    (putField k v fs).lookup k' = if k' = k then some v else fs.lookup k' := by
  induction fs with
  | nil => simp [putField, lookup_pair]
  | cons p fs ih =>
    obtain ⟨j, w⟩ := p
    unfold putField
    by_cases hj : j = k
    · subst hj
      rw [if_pos rfl, lookup_pair, lookup_pair]
      split <;> rfl
    · rw [if_neg hj, lookup_pair, lookup_pair, ih]
      by_cases h : k' = j
      · have hk : k' ≠ k := fun e => hj (h.symm.trans e)
        rw [if_pos h, if_neg hk, if_pos h]
      · rw [if_neg h, if_neg h]

lemma mem_keys_putField {k k' : String} {v : α} {fs : List (String × α)} :
    k' ∈ keys (putField k v fs) ↔ k' = k ∨ k' ∈ keys fs := by
  induction fs with
  | nil => simp [putField]
  | cons p fs ih =>
    obtain ⟨j, w⟩ := p
    unfold putField
    by_cases hj : j = k
    · subst hj; simp
    · rw [if_neg hj, keys_cons, List.mem_cons, ih, keys_cons, List.mem_cons]
      exact or_left_comm

lemma nodup_keys_putField {k : String} {v : α} {fs : List (String × α)} (h : (keys fs).Nodup) :
    (keys (putField k v fs)).Nodup := by
  induction fs with
  | nil => simp [putField]
  | cons p fs ih =>
    obtain ⟨j, w⟩ := p
    rw [keys_cons, List.nodup_cons] at h
    unfold putField
    by_cases hj : j = k
    · subst hj; simpa using h
    · rw [if_neg hj, keys_cons, List.nodup_cons, mem_keys_putField]
      exact ⟨fun hm => hm.elim hj h.1, ih h.2⟩

lemma mem_putField {k : String} {v : α} {p : String × α} {fs : List (String × α)}
    (h : p ∈ putField k v fs) : p = (k, v) ∨ p ∈ fs := by
  induction fs with
  | nil => exact .inl (List.mem_singleton.1 h)
  | cons q fs ih =>
    obtain ⟨j, w⟩ := q
    unfold putField at h
    by_cases hj : j = k
    · rw [if_pos hj, List.mem_cons] at h
      exact h.imp_right (List.mem_cons_of_mem _)
    · rw [if_neg hj, List.mem_cons] at h
      rcases h with rfl | h
      · exact .inr List.mem_cons_self
      · exact (ih h).imp_right (List.mem_cons_of_mem _)

lemma putField_of_not_mem {k : String} {v : α} {fs : List (String × α)} (h : k ∉ keys fs) :
    putField k v fs = fs ++ [(k, v)] := by
  induction fs with
  | nil => rfl
  | cons p fs ih =>
    obtain ⟨j, w⟩ := p
    rw [keys_cons, List.mem_cons, not_or] at h
    unfold putField
    rw [if_neg (Ne.symm h.1), ih h.2, List.cons_append]

/-! ### Fields written one after the other -/

lemma fieldsOf_concat (ps : List (String × α)) (p : String × α) :
    fieldsOf (ps ++ [p]) = putField p.1 p.2 (fieldsOf ps) := by
  simp [fieldsOf]

/-- **The last field of a key counts.** -/
theorem lookup_fieldsOf (k : String) (ps : List (String × α)) :
    (fieldsOf ps).lookup k = ps.reverse.lookup k := by
  induction ps using List.reverseRecOn with
  | nil => rfl
  | append_singleton ps p ih =>
    obtain ⟨j, v⟩ := p
    rw [fieldsOf_concat, lookup_putField, ih, List.reverse_concat, lookup_pair]

theorem mem_keys_fieldsOf {k : String} {ps : List (String × α)} :
    k ∈ keys (fieldsOf ps) ↔ k ∈ keys ps := by
  induction ps using List.reverseRecOn with
  | nil => rfl
  | append_singleton ps p ih =>
    rw [fieldsOf_concat, mem_keys_putField, ih, keys_append, List.mem_append]
    simp [or_comm]

theorem nodup_keys_fieldsOf (ps : List (String × α)) : (keys (fieldsOf ps)).Nodup := by
  induction ps using List.reverseRecOn with
  | nil => exact List.nodup_nil
  | append_singleton ps p ih => rw [fieldsOf_concat]; exact nodup_keys_putField ih

lemma keys_putField (k : String) (v : α) (fs : List (String × α)) :
    keys (putField k v fs) = if k ∈ keys fs then keys fs else keys fs ++ [k] := by
  induction fs with
  | nil => rfl
  | cons p fs ih =>
    obtain ⟨j, w⟩ := p
    unfold putField
    by_cases hj : j = k
    · simp [hj]
    · rw [if_neg hj, keys_cons, ih, keys_cons]
      by_cases hk : k ∈ keys fs
      · simp [hk]
      · simp [hk, Ne.symm hj]

/-- One more item comes last if it is not there yet. -/
lemma eraseDups_concat [BEq β] [LawfulBEq β] (l : List β) (b : β) :
    (l ++ [b]).eraseDups = if b ∈ l then l.eraseDups else l.eraseDups ++ [b] := by
  rw [List.eraseDups_append]
  by_cases hb : b ∈ l
  · simp [List.removeAll, hb]
  · simp [List.removeAll, hb, List.eraseDups_cons]

/-- **The keys stand in the order in which they come up first.** -/
theorem keys_fieldsOf (ps : List (String × α)) : keys (fieldsOf ps) = (keys ps).eraseDups := by
  induction ps using List.reverseRecOn with
  | nil => rfl
  | append_singleton ps p ih =>
    rw [fieldsOf_concat, keys_putField, ih, keys_append, keys_cons, keys_nil, eraseDups_concat]
    simp only [List.mem_eraseDups]

theorem mem_of_mem_fieldsOf {p : String × α} {ps : List (String × α)} (h : p ∈ fieldsOf ps) :
    p ∈ ps := by
  induction ps using List.reverseRecOn with
  | nil => exact h
  | append_singleton ps q ih =>
    rw [fieldsOf_concat] at h
    rcases mem_putField h with rfl | h
    · simp
    · exact List.mem_append_left _ (ih h)

theorem fieldsOf_of_nodup {ps : List (String × α)} (h : (keys ps).Nodup) : fieldsOf ps = ps := by
  induction ps using List.reverseRecOn with
  | nil => rfl
  | append_singleton ps p ih =>
    rw [keys_append, List.nodup_append] at h
    obtain ⟨hps, -, hd⟩ := h
    have hp : p.1 ∉ keys ps := fun hm => hd _ hm p.1 (by simp) rfl
    rw [fieldsOf_concat, ih hps, putField_of_not_mem hp]

/-- Among fields whose keys differ, the value of a key is that of its only field. -/
theorem lookup_eq_some_iff_mem {k : String} {v : α} {fs : List (String × α)}
    (h : (keys fs).Nodup) : fs.lookup k = some v ↔ (k, v) ∈ fs := by
  induction fs with
  | nil => simp
  | cons p fs ih =>
    obtain ⟨j, w⟩ := p
    rw [keys_cons, List.nodup_cons] at h
    rw [lookup_pair, List.mem_cons, Prod.mk.injEq]
    by_cases hk : k = j
    · subst hk
      have hn : (k, v) ∉ fs := fun hm => h.1 (mem_keys_of_mem hm)
      simp [hn, eq_comm]
    · rw [if_neg hk, ih h.2]
      simp [hk]

end ApiContract
