import ApiContract.Proofs.Value.JsonWriting
import ApiContract.Value.Display
import ApiContract.Value.Sharing
import Mathlib.Data.List.Basic

/-!
Things that are found more than once. A value whose things are numbered tells what it is (`Value.resolve`): the
first place of a thing holds it, and the other ones refer to it. A value of JSON in which things are the same if
their identities are is told by its numbered form (`resolve_linked`).
-/

namespace ApiContract.Value

variable {b n : ℕ} {f : Identity → Value} {id : Identity} {names seen : List Identity} {p : ℤ → Bool}
  {v w : Value}

/-- Whether a value is a list or a map. -/
def isCollection : Value → Bool
  | list _ | map _ => true
  | _ => false

/-! ### Values with numbered things -/

mutual

/-- Whether a value is one of JSON in which lists and maps may have numbers. The whole numbers in it satisfy
`p`. -/
def isNumbered (p : ℤ → Bool) : Value → Bool
  | null | bool _ | str _ | again _ _ => true
  | int n => p n
  | list vs => areNumbered p vs
  | map fs => decide (keys fs).Nodup && fieldsAreNumbered p fs
  | shared _ v => v.isCollection && v.isNumbered p
  | _ => false

/-- Whether values are ones of JSON with numbers. -/
def areNumbered (p : ℤ → Bool) : List Value → Bool
  | [] => true
  | v :: vs => v.isNumbered p && areNumbered p vs

/-- Whether the values of fields are ones of JSON with numbers. -/
def fieldsAreNumbered (p : ℤ → Bool) : List (String × Value) → Bool
  | [] => true
  | (_, v) :: fs => v.isNumbered p && fieldsAreNumbered p fs

end

/-- What is known of numbered things, the last one first: nothing but its number while it is not complete, and
then its value. -/
abbrev Known := List (ℕ × Option Value)

mutual

/-- What a value with numbered things is, and what is known then. -/
def resolve (env : Known) : Value → Option (Value × Known)
  | list vs => (resolveAll env vs).map fun p => (list p.1, p.2)
  | map fs => (resolveFields env fs).map fun p => (map (fieldsOf p.1), p.2)
  | shared id v =>
    if (env.lookup id.node).isSome then none
    else (v.resolve ((id.node, none) :: env)).map fun p => (p.1, (id.node, some p.1) :: p.2)
  | again id _ => match env.lookup id.node with
    | some (some w) => some (w, env)
    | _ => none
  | v => some (v, env)

/-- What values with numbered things are. -/
def resolveAll (env : Known) : List Value → Option (List Value × Known)
  | [] => some ([], env)
  | v :: vs => (v.resolve env).bind fun p => (resolveAll p.2 vs).map fun q => (p.1 :: q.1, q.2)

/-- What fields with numbered things are. -/
def resolveFields (env : Known) : List (String × Value) → Option (List (String × Value) × Known)
  | [] => some ([], env)
  | (k, v) :: fs => (v.resolve env).bind fun p => (resolveFields p.2 fs).map fun q => ((k, p.1) :: q.1, q.2)

end

/-! ### What things are -/

mutual

/-- The things in a value are the lists and maps that their identities tell. -/
def Follows (f : Identity → Value) : Value → Prop
  | list vs => AllFollow f vs
  | map fs => FieldsFollow f fs
  | shared id v => v = f id ∧ v.isCollection = true ∧ v.Follows f
  | _ => True

/-- The things in values are what their identities tell. -/
def AllFollow (f : Identity → Value) : List Value → Prop
  | [] => True
  | v :: vs => v.Follows f ∧ AllFollow f vs

/-- The things in fields are what their identities tell. -/
def FieldsFollow (f : Identity → Value) : List (String × Value) → Prop
  | [] => True
  | (_, v) :: fs => v.Follows f ∧ FieldsFollow f fs

end

/-! ### Linking -/

/-- What is known of the things that have names: those that are seen are complete, or hold what is looked at,
which is no larger than `b`. -/
def Knows (f : Identity → Value) (names seen : List Identity) (b : ℕ) (env : Known) : Prop :=
  ∀ id ∈ names, if id ∈ seen then env.lookup (names.idxOf id + 1) = some (some (f id).erased) ∨
      env.lookup (names.idxOf id + 1) = some none ∧ b ≤ sizeOf (f id)
    else env.lookup (names.idxOf id + 1) = none

/-- From what is known when some things are seen one comes to what is known when further ones are: those are
complete then, and of the other ones the same is known. -/
def Extends (f : Identity → Value) (names seen seen' : List Identity) (env env' : Known) : Prop :=
  seen ⊆ seen' ∧ ∀ id ∈ names, if id ∈ seen' ∧ id ∉ seen
    then env'.lookup (names.idxOf id + 1) = some (some (f id).erased)
    else env'.lookup (names.idxOf id + 1) = env.lookup (names.idxOf id + 1)

lemma Extends.refl (env : Known) : Extends f names seen seen env env :=
  ⟨List.Subset.refl _, fun id _ => by rw [if_neg (by tauto)]⟩

lemma Extends.trans {seen seen' seen'' : List Identity} {env env' env'' : Known}
    (h : Extends f names seen seen' env env') (h' : Extends f names seen' seen'' env' env'') :
    Extends f names seen seen'' env env'' := by
  refine ⟨List.Subset.trans h.1 h'.1, fun id hid => ?_⟩
  have h₁ := h.2 id hid
  have h₂ := h'.2 id hid
  by_cases hseen : id ∈ seen
  · rw [if_neg (by tauto)] at h₁ ⊢
    have := h.1 hseen
    rw [if_neg (by tauto), h₁] at h₂
    exact h₂
  · by_cases hseen' : id ∈ seen'
    · have := h'.1 hseen'
      rw [if_pos (by tauto)] at h₁ ⊢
      rw [if_neg (by tauto), h₁] at h₂
      exact h₂
    · by_cases hseen'' : id ∈ seen''
      · rw [if_pos (by tauto)] at h₂ ⊢
        exact h₂
      · rw [if_neg (by tauto)] at h₁ h₂ ⊢
        rw [h₂, h₁]

lemma Knows.mono {b' : ℕ} {env : Known} (h : Knows f names seen b env) (hb : b' ≤ b) :
    Knows f names seen b' env := by
  intro id hid
  have hknown := h id hid
  split_ifs at hknown ⊢
  · exact hknown.imp_right fun h => ⟨h.1, hb.trans h.2⟩
  · exact hknown

lemma Knows.extend {seen' : List Identity} {env env' : Known} (h : Knows f names seen b env)
    (he : Extends f names seen seen' env env') : Knows f names seen' b env' := by
  intro id hid
  have hknown := h id hid
  have hextended := he.2 id hid
  by_cases hseen : id ∈ seen
  · rw [if_pos hseen] at hknown
    rw [if_pos (he.1 hseen)]
    rw [if_neg (by tauto)] at hextended
    rwa [hextended]
  · rw [if_neg hseen] at hknown
    by_cases hseen' : id ∈ seen'
    · rw [if_pos (by tauto)] at hextended
      rw [if_pos hseen']
      exact .inl hextended
    · rw [if_neg (by tauto)] at hextended
      rw [if_neg hseen', hextended, hknown]

lemma idxOf?_eq_some {i : ℕ} (h : names.idxOf? id = some i) : id ∈ names ∧ i = names.idxOf id := by
  induction names generalizing i with
  | nil => cases h
  | cons a names ih =>
    rw [List.idxOf?_cons] at h
    by_cases ha : a = id
    · rw [if_pos (by simpa using ha)] at h
      cases h
      exact ⟨ha ▸ List.mem_cons_self, by rw [ha, List.idxOf_cons_self]⟩
    · rw [if_neg (by simpa using ha)] at h
      obtain ⟨j, hj, rfl⟩ := Option.map_eq_some_iff.1 h
      obtain ⟨hmem, rfl⟩ := ih hj
      exact ⟨List.mem_cons_of_mem _ hmem, by rw [List.idxOf_cons, beq_false_of_ne ha]; rfl⟩

/-- What is known of a thing is known of no other one. -/
lemma lookup_idxOf (hid : id ∈ names) (id' : Identity) (o : Option Value) (env : Known) :
    List.lookup (names.idxOf id' + 1) ((names.idxOf id + 1, o) :: env) =
      if id' = id then some o else env.lookup (names.idxOf id' + 1) := by
  split_ifs with h
  · rw [h, List.lookup_cons_self]
  · have hne : ¬ names.idxOf id' + 1 = names.idxOf id + 1 := fun heq =>
      h ((List.idxOf_inj hid).1 (Nat.succ.inj heq).symm).symm
    rw [List.lookup_cons, beq_false_of_ne hne]

/-- A thing is looked into. -/
lemma Knows.enter {env : Known} (h : Knows f names seen b env) (hid : id ∈ names) (hb : sizeOf (f id) ≤ b) :
    Knows f names (id :: seen) (sizeOf (f id)) ((names.idxOf id + 1, none) :: env) := by
  intro id' hid'
  have hknown := h id' hid'
  rw [lookup_idxOf hid]
  by_cases hsame : id' = id
  · rw [if_pos (hsame ▸ List.mem_cons_self), if_pos hsame, hsame]
    exact .inr ⟨rfl, Nat.le_refl _⟩
  · simp only [List.mem_cons, hsame, false_or, if_false]
    split_ifs at hknown ⊢
    · exact hknown.imp_right fun h => ⟨h.1, hb.trans h.2⟩
    · exact hknown

/-- A thing is complete. -/
lemma Extends.leave {seen' : List Identity} {env env' : Known} (hseen : id ∉ seen) (hid : id ∈ names)
    (h : Extends f names (id :: seen) seen' ((names.idxOf id + 1, none) :: env) env') :
    Extends f names seen seen' env ((names.idxOf id + 1, some (f id).erased) :: env') := by
  refine ⟨fun id' hid' => h.1 (List.mem_cons_of_mem _ hid'), fun id' hid' => ?_⟩
  have hextended := h.2 id' hid'
  have hmem : id ∈ seen' := h.1 List.mem_cons_self
  rw [lookup_idxOf hid] at hextended ⊢
  by_cases hsame : id' = id
  · subst hsame
    rw [if_pos rfl, if_pos ⟨hmem, hseen⟩]
  · simp only [List.mem_cons, hsame, false_or, if_false] at hextended ⊢
    exact hextended

lemma keys_erasedFields (fs : List (String × Value)) : keys (erasedFields fs) = keys fs := by
  induction fs with
  | nil => rfl
  | cons q fs ih => rw [erasedFields, keys_cons, keys_cons, ih]

mutual

/-- **A value is told by its numbered form.** -/
theorem resolve_link :
    (v : Value) → v.isJson p true = true → v.Follows f → ∀ (names seen : List Identity) (env : Known),
    Knows f names seen (sizeOf v) env → ∃ env', (link names seen v).1.resolve env = some (v.erased, env') ∧
      Extends f names seen (link names seen v).2 env env'
  | null, _, _, _, _, env, _ | bool _, _, _, _, _, env, _ | int _, _, _, _, _, env, _
  | str _, _, _, _, _, env, _ =>
    ⟨env, rfl, .refl env⟩
  | list vs, h, hf, names, seen, env, hk => by
    obtain ⟨env', hresolve, hextends⟩ := resolveAll_link vs h hf names seen env (hk.mono (by simp))
    refine ⟨env', ?_, hextends⟩
    change (resolveAll env (linkAll names seen vs).1).map _ = _
    rw [hresolve]
    rfl
  | map fs, h, hf, names, seen, env, hk => by
    obtain ⟨hkeys, hfs⟩ := Bool.and_eq_true_iff.1 h
    obtain ⟨env', hresolve, hextends⟩ := resolveFields_link fs hfs hf names seen env (hk.mono (by simp))
    refine ⟨env', ?_, hextends⟩
    change (resolveFields env (linkFields names seen fs).1).map _ = _
    rw [hresolve, Option.map_some, fieldsOf_of_nodup (by rw [keys_erasedFields]; exact of_decide_eq_true hkeys)]
    rfl
  | shared id v, h, hf, names, seen, env, hk => by
    obtain ⟨-, hv⟩ := Bool.and_eq_true_iff.1 h
    obtain ⟨rfl, -, hf⟩ := hf
    rw [link]
    split
    · exact resolve_link (f id) hv hf names seen env (hk.mono (by simp))
    · rename_i i hi
      obtain ⟨hid, rfl⟩ := idxOf?_eq_some hi
      have hknown := hk id hid
      split_ifs with hseen
      · rw [if_pos (by simpa using hseen)] at hknown
        have hcomplete := hknown.resolve_right fun h => absurd h.2 (by rw [Value.shared.sizeOf_spec]; omega)
        refine ⟨env, ?_, .refl env⟩
        simp only [resolve, hcomplete]
        rfl
      · have hnew : id ∉ seen := by simpa using hseen
        rw [if_neg hnew] at hknown
        obtain ⟨env', hresolve, hextends⟩ :=
          resolve_link (f id) hv hf names (id :: seen) _ (hk.enter hid (by simp))
        refine ⟨(names.idxOf id + 1, some (f id).erased) :: env', ?_, hextends.leave hnew hid⟩
        simp only [resolve, hknown, Option.isSome_none, Bool.false_eq_true, if_false, hresolve, Option.map_some]
        rfl

theorem resolveAll_link : (vs : List Value) → areJson p true vs = true → AllFollow f vs →
    ∀ (names seen : List Identity) (env : Known), Knows f names seen (sizeOf vs) env →
      ∃ env', resolveAll env (linkAll names seen vs).1 = some (erasedAll vs, env') ∧
        Extends f names seen (linkAll names seen vs).2 env env'
  | [], _, _, _, _, env, _ => ⟨env, rfl, .refl env⟩
  | v :: vs, h, hf, names, seen, env, hk => by
    obtain ⟨hv, hvs⟩ := Bool.and_eq_true_iff.1 h
    obtain ⟨env₁, hresolve₁, hextends₁⟩ := resolve_link v hv hf.1 names seen env (hk.mono (by simp; omega))
    obtain ⟨env₂, hresolve₂, hextends₂⟩ := resolveAll_link vs hvs hf.2 names _ env₁
      ((hk.extend hextends₁).mono (by simp))
    refine ⟨env₂, ?_, hextends₁.trans hextends₂⟩
    change ((link names seen v).1.resolve env).bind _ = _
    rw [hresolve₁]
    change (resolveAll env₁ (linkAll names (link names seen v).2 vs).1).map _ = _
    rw [hresolve₂]
    rfl

theorem resolveFields_link : (fs : List (String × Value)) → fieldsAreJson p true fs = true → FieldsFollow f fs →
    ∀ (names seen : List Identity) (env : Known), Knows f names seen (sizeOf fs) env →
      ∃ env', resolveFields env (linkFields names seen fs).1 = some (erasedFields fs, env') ∧
        Extends f names seen (linkFields names seen fs).2 env env'
  | [], _, _, _, _, env, _ => ⟨env, rfl, .refl env⟩
  | (k, v) :: fs, h, hf, names, seen, env, hk => by
    obtain ⟨hv, hfs⟩ := Bool.and_eq_true_iff.1 h
    obtain ⟨env₁, hresolve₁, hextends₁⟩ := resolve_link v hv hf.1 names seen env (hk.mono (by simp; omega))
    obtain ⟨env₂, hresolve₂, hextends₂⟩ := resolveFields_link fs hfs hf.2 names _ env₁
      ((hk.extend hextends₁).mono (by simp))
    refine ⟨env₂, ?_, hextends₁.trans hextends₂⟩
    change ((link names seen v).1.resolve env).bind _ = _
    rw [hresolve₁]
    change (resolveFields env₁ (linkFields names (link names seen v).2 fs).1).map _ = _
    rw [hresolve₂]
    rfl

end

/-- What a value of JSON is told by its numbered form. -/
theorem resolve_linked (h : v.isJson p true = true) (hf : v.Follows f) :
    ∃ env, v.linked.resolve [] = some (v.erased, env) := by
  have hknows : Knows f v.repeated [] (sizeOf v) [] := fun id _ => rfl
  obtain ⟨env, hresolve, -⟩ := resolve_link v h hf v.repeated [] [] hknows
  exact ⟨env, hresolve⟩

lemma keys_linkFields (names seen : List Identity) (fs : List (String × Value)) :
    keys (linkFields names seen fs).1 = keys fs := by
  induction fs generalizing seen with
  | nil => rfl
  | cons q fs ih =>
    change q.1 :: keys (linkFields names (link names seen q.2).2 fs).1 = _
    rw [ih, keys_cons]

lemma isCollection_link (h : v.isCollection = true) (names seen : List Identity) :
    (link names seen v).1.isCollection = true := by
  cases v <;> first | rfl | cases h

mutual

/-- The numbered form of a value of JSON is one of JSON with numbers. -/
theorem isNumbered_link : (v : Value) → v.isJson p true = true → v.Follows f → ∀ names seen : List Identity,
    (link names seen v).1.isNumbered p = true
  | null, h, _, _, _ | bool _, h, _, _, _ | int _, h, _, _, _ | str _, h, _, _, _ => h
  | list vs, h, hf, names, seen => areNumbered_link vs h hf names seen
  | map fs, h, hf, names, seen => by
    obtain ⟨hkeys, hfs⟩ := Bool.and_eq_true_iff.1 h
    refine Bool.and_eq_true_iff.2 ⟨?_, fieldsAreNumbered_link fs hfs hf names seen⟩
    rwa [keys_linkFields]
  | shared id v, h, hf, names, seen => by
    obtain ⟨-, hv⟩ := Bool.and_eq_true_iff.1 h
    obtain ⟨-, hcollection, hf⟩ := hf
    rw [link]
    split
    · exact isNumbered_link v hv hf names seen
    · split_ifs
      · rfl
      · exact Bool.and_eq_true_iff.2 ⟨isCollection_link hcollection _ _, isNumbered_link v hv hf names _⟩

theorem areNumbered_link :
    (vs : List Value) → areJson p true vs = true → AllFollow f vs → ∀ names seen : List Identity,
    areNumbered p (linkAll names seen vs).1 = true
  | [], _, _, _, _ => rfl
  | v :: vs, h, hf, names, seen =>
    have hvs := Bool.and_eq_true_iff.1 h
    Bool.and_eq_true_iff.2 ⟨isNumbered_link v hvs.1 hf.1 names seen, areNumbered_link vs hvs.2 hf.2 names _⟩

theorem fieldsAreNumbered_link :
    (fs : List (String × Value)) → fieldsAreJson p true fs = true → FieldsFollow f fs →
    ∀ names seen : List Identity, fieldsAreNumbered p (linkFields names seen fs).1 = true
  | [], _, _, _, _ => rfl
  | (_, v) :: fs, h, hf, names, seen =>
    have hfs := Bool.and_eq_true_iff.1 h
    Bool.and_eq_true_iff.2
      ⟨isNumbered_link v hfs.1 hf.1 names seen, fieldsAreNumbered_link fs hfs.2 hf.2 names _⟩

end

/-! ### Copies -/

lemma isFixed_of_isCollection (h : v.isCollection = true) : v.isFixed = false := by
  cases v <;> first | rfl | cases h

lemma isCollection_copied (n : ℕ) (v : Value) : (v.copied n).isCollection = v.isCollection := by
  cases v <;> rfl

mutual

/-- The things in a copy are the copies of the things. -/
theorem follows_copied {g : ℕ → ℕ → Value} (n : ℕ) : (v : Value) → v.Follows (fun id => g id.node id.part) →
    (v.copied n).Follows fun id => (g id.node id.part).copied id.copy
  | null, _ | bool _, _ | int _, _ | real _, _ | str _, _ | bytes _, _ | date _, _ | moment _ _, _
  | torn _, _ | again _ _, _ | set _, _ | pair _ _, _ | table _, _ => trivial
  | list vs, h => allFollow_copied n vs h
  | map fs, h => fieldsFollow_copied n fs h
  | shared id v, h => by
    obtain ⟨hv, hcollection, h⟩ := h
    simp only [copied, isFixed_of_isCollection hcollection, Bool.false_eq_true, if_false]
    exact ⟨congrArg (copied n) hv, by rwa [isCollection_copied], follows_copied n v h⟩

theorem allFollow_copied {g : ℕ → ℕ → Value} (n : ℕ) :
    (vs : List Value) → AllFollow (fun id => g id.node id.part) vs →
    AllFollow (fun id => (g id.node id.part).copied id.copy) (copiedAll n vs)
  | [], _ => trivial
  | v :: vs, h => ⟨follows_copied n v h.1, allFollow_copied n vs h.2⟩

theorem fieldsFollow_copied {g : ℕ → ℕ → Value} (n : ℕ) : (fs : List (String × Value)) →
    FieldsFollow (fun id => g id.node id.part) fs →
    FieldsFollow (fun id => (g id.node id.part).copied id.copy) (copiedFields n fs)
  | [], _ => trivial
  | (_, v) :: fs, h => ⟨follows_copied n v h.1, fieldsFollow_copied n fs h.2⟩

end

mutual

/-- Where nothing is a thing of its own, things are whatever one says. -/
theorem follows_of_isJson : (v : Value) → v.isJson p false = true → v.Follows f
  | null, _ | bool _, _ | int _, _ | str _, _ | real _, _ | bytes _, _ | date _, _ | moment _ _, _
  | torn _, _ | again _ _, _ | set _, _ | pair _ _, _ | table _, _ => trivial
  | list vs, h => allFollow_of_areJson vs h
  | map fs, h => fieldsFollow_of_fieldsAreJson fs (Bool.and_eq_true_iff.1 h).2
  | shared _ _, h => by cases h

theorem allFollow_of_areJson : (vs : List Value) → areJson p false vs = true → AllFollow f vs
  | [], _ => trivial
  | v :: vs, h =>
    have hvs := Bool.and_eq_true_iff.1 h
    ⟨follows_of_isJson v hvs.1, allFollow_of_areJson vs hvs.2⟩

theorem fieldsFollow_of_fieldsAreJson : (fs : List (String × Value)) → fieldsAreJson p false fs = true →
    FieldsFollow f fs
  | [], _ => trivial
  | (_, v) :: fs, h =>
    have hfs := Bool.and_eq_true_iff.1 h
    ⟨follows_of_isJson v hfs.1, fieldsFollow_of_fieldsAreJson fs hfs.2⟩

end

lemma fieldsFollow_iff {fs : List (String × Value)} : FieldsFollow f fs ↔ ∀ q ∈ fs, q.2.Follows f := by
  induction fs with
  | nil => exact iff_of_true trivial (List.forall_mem_nil _)
  | cons q fs ih => rw [FieldsFollow, ih, List.forall_mem_cons]

/-! ### Numbers that are too long -/

mutual

/-- A value of JSON has a number that is too long just if it is none of those without such numbers. -/
theorem hasLongInt_eq : (v : Value) → v.isJson (fun _ => true) true = true →
    v.hasLongInt = !v.isJson (fun n => !Number.isLong n) true
  | null, _ | bool _, _ | str _, _ => rfl
  | int n, _ => by simp only [hasLongInt, isJson, Bool.not_not]
  | list vs, h => by
    simp only [hasLongInt, isJson]
    exact hasLongIntAll_eq vs h
  | map fs, h => by
    obtain ⟨hkeys, hfs⟩ := Bool.and_eq_true_iff.1 h
    simp only [hasLongInt, isJson, hkeys, Bool.true_and]
    exact hasLongIntFields_eq fs hfs
  | shared _ v, h => by
    simp only [hasLongInt, isJson, Bool.true_and]
    exact hasLongInt_eq v (Bool.and_eq_true_iff.1 h).2

theorem hasLongIntAll_eq : (vs : List Value) → areJson (fun _ => true) true vs = true →
    hasLongIntAll vs = !areJson (fun n => !Number.isLong n) true vs
  | [], _ => rfl
  | v :: vs, h => by
    obtain ⟨hv, hvs⟩ := Bool.and_eq_true_iff.1 h
    rw [hasLongIntAll, areJson, hasLongInt_eq v hv, hasLongIntAll_eq vs hvs, Bool.not_and]

theorem hasLongIntFields_eq : (fs : List (String × Value)) → fieldsAreJson (fun _ => true) true fs = true →
    hasLongIntFields fs = !fieldsAreJson (fun n => !Number.isLong n) true fs
  | [], _ => rfl
  | (_, v) :: fs, h => by
    obtain ⟨hv, hfs⟩ := Bool.and_eq_true_iff.1 h
    rw [hasLongIntFields, fieldsAreJson, hasLongInt_eq v hv, hasLongIntFields_eq fs hfs, Bool.not_and]

end

end ApiContract.Value
