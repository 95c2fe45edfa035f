import ApiContract.Proofs.Yaml.Scans

/-!
A value that is like another one, as far as tokens tell, and has other texts is another value: what the two
are by their numbered forms differs (`tellsApart_of_scans`).
-/

namespace ApiContract

variable {α : Type}

lemma length_putField (k : String) (v : α) (fs : List (String × α)) :
    (putField k v fs).length = if k ∈ keys fs then fs.length else fs.length + 1 := by
  have hkeys := congrArg List.length (keys_putField k v fs)
  rw [keys, List.length_map] at hkeys
  split_ifs at hkeys ⊢
  · rw [hkeys, keys, List.length_map]
  · rw [hkeys, List.length_append, keys, List.length_map, List.length_singleton]

lemma length_fieldsOf_le (ps : List (String × α)) : (fieldsOf ps).length ≤ ps.length := by
  induction ps using List.reverseRecOn with
  | nil => exact Nat.le_refl 0
  | append_singleton ps p ih =>
    rw [fieldsOf_concat, length_putField, List.length_append, List.length_singleton]
    split_ifs <;> omega

/-- Where no field is lost, all are as they were. -/
lemma fieldsOf_of_length {ps : List (String × α)} (h : (fieldsOf ps).length = ps.length) :
    fieldsOf ps = ps := by
  induction ps using List.reverseRecOn with
  | nil => rfl
  | append_singleton ps p ih =>
    have hle := length_fieldsOf_le ps
    rw [fieldsOf_concat, length_putField, List.length_append, List.length_singleton] at h
    split_ifs at h with hkey
    · omega
    · rw [fieldsOf_concat, putField_of_not_mem hkey, ih (by omega)]

namespace Yaml

open Value

variable {env env' : Known} {fs gs : List (String × Value)} {p : ℤ → Bool}

/-- The same things are known, and the same are complete. -/
def SameKnown (env env' : Known) : Prop :=
  ∀ i, (env.lookup i).map Option.isSome = (env'.lookup i).map Option.isSome

lemma SameKnown.cons (h : SameKnown env env') (i : ℕ) {o o' : Option Value} (ho : o.isSome = o'.isSome) :
    SameKnown ((i, o) :: env) ((i, o') :: env') := by
  intro j
  rw [List.lookup_cons, List.lookup_cons]
  split
  · exact congrArg some ho
  · exact h j

lemma keys_resolveFields {e : Known} (h : resolveFields env fs = some (gs, e)) : keys gs = keys fs := by
  induction fs generalizing env gs e with
  | nil => cases h; rfl
  | cons f fs ih =>
    obtain ⟨⟨w, env₁⟩, -, h⟩ := Option.bind_eq_some_iff.1 h
    obtain ⟨⟨gs, env₂⟩, hgs, ⟨⟩⟩ := Option.map_eq_some_iff.1 h
    rw [keys_cons, keys_cons, ih hgs]

/-- What is told by the numbered form of a value is told by one like it, and is another thing if that is another
value. -/
def TellsApart (v v' : Value) : Prop :=
  ∀ ⦃env env' w e⦄, SameKnown env env' → v.resolve env = some (w, e) →
    ∃ w' e', v'.resolve env' = some (w', e') ∧ SameKnown e e' ∧ (w' = w → v' = v)

lemma TellsApart.word {v : Value} (h : isWord v = true) : TellsApart v v := by
  intro env env' w e hknown hresolve
  have hself (env : Known) : v.resolve env = some (v, env) := by
    cases v <;> first | rfl | cases h
  rw [hself] at hresolve
  cases hresolve
  exact ⟨v, env', hself env', hknown, fun _ => rfl⟩

/-- The same for items. -/
def TellApart (vs vs' : List Value) : Prop :=
  ∀ ⦃env env' ws e⦄, SameKnown env env' → resolveAll env vs = some (ws, e) →
    ∃ ws' e', resolveAll env' vs' = some (ws', e') ∧ SameKnown e e' ∧ (ws' = ws → vs' = vs)

/-- The same for fields. -/
def FieldsTellApart (fs fs' : List (String × Value)) : Prop :=
  ∀ ⦃env env' gs e⦄, SameKnown env env' → resolveFields env fs = some (gs, e) →
    ∃ gs' e', resolveFields env' fs' = some (gs', e') ∧ SameKnown e e' ∧ gs'.length = gs.length ∧
      (gs' = gs → fs' = fs)

lemma TellsApart.list {vs vs' : List Value} (h : TellApart vs vs') : TellsApart (.list vs) (.list vs') := by
  intro env env' w e hknown hresolve
  obtain ⟨⟨ws, e⟩, hws, ⟨⟩⟩ := Option.map_eq_some_iff.1 hresolve
  obtain ⟨ws', e', hws', hknown', heq⟩ := h hknown hws
  exact ⟨.list ws', e', by rw [resolve, hws']; rfl, hknown',
    fun h => congrArg Value.list (heq (Value.list.inj h))⟩

/-- A map whose keys differ is told apart: the other one has as many fields, or it loses some. -/
lemma TellsApart.map {fs fs' : List (String × Value)} (hkeys : (keys fs).Nodup) (h : FieldsTellApart fs fs') :
    TellsApart (.map fs) (.map fs') := by
  intro env env' w e hknown hresolve
  obtain ⟨⟨gs, e⟩, hgs, ⟨⟩⟩ := Option.map_eq_some_iff.1 hresolve
  obtain ⟨gs', e', hgs', hknown', hlength, heq⟩ := h hknown hgs
  refine ⟨.map (fieldsOf gs'), e', by rw [resolve, hgs']; rfl, hknown', fun h => congrArg Value.map (heq ?_)⟩
  have hsame : fieldsOf gs' = fieldsOf gs := Value.map.inj h
  rw [← keys_resolveFields hgs] at hkeys
  rw [fieldsOf_of_nodup hkeys] at hsame
  rw [← hsame, fieldsOf_of_length (by rw [hsame, hlength])]

lemma SameKnown.isSome_eq (h : SameKnown env env') (i : ℕ) :
    (env'.lookup i).isSome = (env.lookup i).isSome := by
  have := congrArg Option.isSome (h i)
  simpa using this.symm

lemma TellsApart.shared {v v' : Value} (h : TellsApart v v') (id : Identity) :
    TellsApart (.shared id v) (.shared id v') := by
  intro env env' w e hknown hresolve
  rw [resolve] at hresolve
  split_ifs at hresolve with hnew
  obtain ⟨⟨w, e⟩, hw, ⟨⟩⟩ := Option.map_eq_some_iff.1 hresolve
  obtain ⟨w', e', hw', hknown', heq⟩ := h (hknown.cons id.node rfl) hw
  refine ⟨w', (id.node, some w') :: e', ?_, hknown'.cons id.node rfl,
    fun h => congrArg (Value.shared id) (heq h)⟩
  rw [resolve, hknown.isSome_eq, if_neg hnew, hw']
  rfl

lemma TellsApart.again (id : Identity) (l : Bool) : TellsApart (.again id l) (.again id l) := by
  intro env env' w e hknown hresolve
  rw [resolve] at hresolve
  split at hresolve
  · rename_i hlookup
    cases hresolve
    have hsame := hknown id.node
    rw [hlookup] at hsame
    obtain ⟨o, ho, hsome⟩ := Option.map_eq_some_iff.1 hsame.symm
    obtain ⟨w', rfl⟩ := Option.isSome_iff_exists.1 hsome
    exact ⟨w', env', by rw [resolve, ho], hknown, fun _ => rfl⟩
  · cases hresolve

mutual

/-- **Values that are alike and tell the same are the same.** -/
theorem tellsApart_of_scans : (v : Value) → v.isNumbered p = true → ∀ ⦃m v' T⦄, Scans m v v' T → TellsApart v v'
  | .null, _, _, _, _, h => by cases h; exact .word rfl
  | .bool _, _, _, _, _, h => by cases h; exact .word rfl
  | .int _, _, _, _, _, h => by cases h; exact .word rfl
  | .str s, _, _, _, _, h => by
    intro env env' w e hknown hresolve
    cases h with
    | word h => cases h
    | text =>
      cases hresolve
      exact ⟨_, env', rfl, hknown, fun h => h⟩
  | .list vs, hvs, _, _, _, h => by
    cases h with
    | word h => cases h
    | noItems => exact .list (tellApart_of_scans [] rfl .nil)
    | items _ h | flush _ h => exact .list (tellApart_of_scans vs hvs h)
  | .map fs, hfs, _, _, _, h => by
    obtain ⟨hkeys, hfs⟩ := Bool.and_eq_true_iff.1 hfs
    cases h with
    | word h => cases h
    | noFields => exact .map List.nodup_nil (fieldsTellApart_of_scans [] rfl .nil)
    | fields _ h => exact .map (of_decide_eq_true hkeys) (fieldsTellApart_of_scans fs hfs h)
  | .shared id v, hv, _, _, _, h => by
    cases h with
    | word h => cases h
    | shared _ h => exact (tellsApart_of_scans v (Bool.and_eq_true_iff.1 hv).2 h).shared id
  | .again id l, _, _, _, _, h => by
    cases h with
    | word h => cases h
    | again => exact .again id l

theorem tellApart_of_scans :
    (vs : List Value) → areNumbered p vs = true → ∀ ⦃vs' T⦄, ScansItems vs vs' T → TellApart vs vs'
  | [], _, _, _, h => by
    intro env env' ws e hknown hresolve
    cases h
    cases hresolve
    exact ⟨[], env', rfl, hknown, fun _ => rfl⟩
  | v :: vs, hvs, _, _, h => by
    intro env env' ws e hknown hresolve
    cases h with
    | cons h hs =>
      have hvs := Bool.and_eq_true_iff.1 hvs
      obtain ⟨⟨w, e₁⟩, hw, hresolve⟩ := Option.bind_eq_some_iff.1 hresolve
      obtain ⟨⟨ws, e₂⟩, hws, ⟨⟩⟩ := Option.map_eq_some_iff.1 hresolve
      obtain ⟨w', e₁', hw', hknown₁, heq⟩ := tellsApart_of_scans v hvs.1 h hknown hw
      obtain ⟨ws', e₂', hws', hknown₂, heqs⟩ := tellApart_of_scans vs hvs.2 hs hknown₁ hws
      refine ⟨w' :: ws', e₂', by rw [resolveAll, hw', Option.bind_some, hws']; rfl, hknown₂, fun hsame => ?_⟩
      obtain ⟨h₁, h₂⟩ := List.cons.inj hsame
      rw [heq h₁, heqs h₂]

theorem fieldsTellApart_of_scans : (fs : List (String × Value)) → fieldsAreNumbered p fs = true →
    ∀ ⦃fs' T⦄, ScansFields fs fs' T → FieldsTellApart fs fs'
  | [], _, _, _, h => by
    intro env env' gs e hknown hresolve
    cases h
    cases hresolve
    exact ⟨[], env', rfl, hknown, rfl, fun _ => rfl⟩
  | (s, v) :: fs, hfs, _, _, h => by
    intro env env' gs e hknown hresolve
    cases h with
    | @cons _ s' _ _ _ _ _ _ _ _ h hs =>
      have hfs := Bool.and_eq_true_iff.1 hfs
      obtain ⟨⟨w, e₁⟩, hw, hresolve⟩ := Option.bind_eq_some_iff.1 hresolve
      obtain ⟨⟨gs, e₂⟩, hgs, ⟨⟩⟩ := Option.map_eq_some_iff.1 hresolve
      obtain ⟨w', e₁', hw', hknown₁, heq⟩ := tellsApart_of_scans v hfs.1 h hknown hw
      obtain ⟨gs', e₂', hgs', hknown₂, hlength, heqs⟩ := fieldsTellApart_of_scans fs hfs.2 hs hknown₁ hgs
      refine ⟨(s', w') :: gs', e₂', by rw [resolveFields, hw', Option.bind_some, hgs']; rfl, hknown₂,
        congrArg Nat.succ hlength, fun hsame => ?_⟩
      obtain ⟨h₁, h₂⟩ := List.cons.inj hsame
      obtain ⟨hkey, hvalue⟩ := Prod.mk.inj h₁
      rw [hkey, heq hvalue, heqs h₂]

end

end Yaml

end ApiContract
