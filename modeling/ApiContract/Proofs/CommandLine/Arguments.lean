import ApiContract.CommandLine.Arguments
import ApiContract.Proofs.Except

/-!
Values of flags. Whatever the arguments are, a flag that takes a value has a text, or the empty list
where the value is the mark, and every other flag is just there (`isTyped_of_ofList`).
-/

namespace ApiContract.CommandLine

variable {a b : Arguments} {f : Flag} {v : Value}

/-- The values that a flag can have. -/
def Flag.HasValue (f : Flag) (v : Value) : Prop :=
  if f.takesValue then (∃ s, v = .str s) ∨ v = .list [] else v = .bool true

/-- All flags have values that they can have. -/
def Arguments.IsTyped (a : Arguments) : Prop := ∀ p ∈ a.values, p.1.HasValue p.2

lemma Arguments.IsTyped.hasValue (h : a.IsTyped) (hv : a.value? f = some v) : f.HasValue v := by
  obtain ⟨before, after, hvalues, -⟩ := List.lookup_eq_some_iff.1 hv
  exact h (f, v) (by rw [hvalues]; simp)

/-! ### One flag -/

lemma Arguments.IsTyped.raise (h : a.IsTyped) (hf : f.takesValue = false) : (a.raise f).IsTyped := by
  refine List.forall_mem_cons.2 ⟨?_, h⟩
  rw [Flag.HasValue, hf]
  rfl

lemma Arguments.IsTyped.foldl_raise {fs : List Flag} (h : a.IsTyped)
    (hfs : ∀ f ∈ fs, f.takesValue = false) : (fs.foldl Arguments.raise a).IsTyped := by
  induction fs generalizing a with
  | nil => exact h
  | cons f fs ih =>
    obtain ⟨hf, hfs⟩ := List.forall_mem_cons.1 hfs
    exact ih (h.raise hf) hfs

lemma Arguments.IsTyped.add {s : String} (h : a.IsTyped) (hf : f.takesValue = true)
    (hb : a.add f s = .ok b) : b.IsTyped := by
  unfold Arguments.add at hb
  simp only at hb
  generalize hw : (if s == "--" then Value.list [] else .str s) = w at hb
  -- the choices and the rival only decide whether there is a result
  have hb : b = { a with values := (f, w) :: a.values } := by
    split at hb
    · split at hb
      · cases hb
      · split at hb
        · split at hb <;> cases hb
          rfl
        · cases hb
          rfl
    · split at hb
      · split at hb <;> cases hb
        rfl
      · cases hb
        rfl
  rw [hb]
  refine List.forall_mem_cons.2 ⟨?_, h⟩
  rw [Flag.HasValue, hf, if_pos rfl, ← hw]
  split
  · exact .inr rfl
  · exact .inl ⟨s, rfl⟩

/-- Flags that are packed behind a short one take no value, but perhaps the last one. -/
lemma takesValue_of_unpack {name value : String} {raised : List Flag} {last : Flag}
    {rest : Option String} (h : unpack f name value = .ok (raised, last, rest)) :
    ∀ g ∈ raised, g.takesValue = false := by
  unfold unpack at h
  generalize value.toList = cs at h
  induction cs generalizing f name raised with
  | nil =>
    unfold unpack.go at h
    split at h <;> cases h
    exact nofun
  | cons c cs ih =>
    unfold unpack.go at h
    split at h
    · cases h
      exact nofun
    · rename_i hf
      have hf : f.takesValue = false := Bool.eq_false_iff.2 hf
      split at h
      · cases h
      · simp only at h
        split at h
        · cases h
        · rename_i g _
          split at h
          · cases h
            exact List.forall_mem_singleton.2 hf
          · obtain ⟨⟨fs, rest'⟩, hgo, hfs⟩ := map_eq_ok_iff.1 h
            cases hfs
            exact List.forall_mem_cons.2 ⟨hf, ih hgo⟩

/-- A flag has a value after it has been looked for just if it takes one. -/
lemma isSome_of_takeValue {value value' : Option String} {ws ws' : List Word}
    (h : takeValue f value ws = .ok (value', ws')) : value'.isSome = f.takesValue := by
  unfold takeValue at h
  split at h <;> cases h <;> simp_all only [Option.isSome_some, Option.isSome_none]

lemma Arguments.IsTyped.apply {raised : List Flag} {value : Option String} (h : a.IsTyped)
    (hraised : ∀ g ∈ raised, g.takesValue = false) (hvalue : value.isSome = f.takesValue)
    (hb : a.apply raised f value = .ok b) : b.IsTyped := by
  unfold Arguments.apply at hb
  cases value with
  | none =>
    cases hb
    exact (h.foldl_raise hraised).raise hvalue.symm
  | some s => exact (h.foldl_raise hraised).add hvalue.symm hb

/-! ### All of them -/

/-- What is read after a flag has its value leaves all flags with values that they can have, if reading
the words after it does. -/
lemma Arguments.IsTyped.goOn {n : Nat} {raised : List Flag} {value : Option String} {ws : List Word}
    (h : a.IsTyped) (ih : ∀ a', a'.IsTyped → Arguments.ofWords n a' ws = .ok b → b.IsTyped)
    (hraised : ∀ g ∈ raised, g.takesValue = false) (hvalue : value.isSome = f.takesValue)
    (hb : (if raised.contains .help then pure (a.raise .help)
      else a.apply raised f value >>= fun a' =>
        if a'.wantsHelp then pure a' else Arguments.ofWords n a' ws) = .ok b) : b.IsTyped := by
  split at hb
  · cases hb
    exact h.raise rfl
  · obtain ⟨a', ha', hb⟩ := bind_eq_ok_iff.1 hb
    have ha' := h.apply hraised hvalue ha'
    split at hb
    · cases hb
      exact ha'
    · exact ih a' ha' hb

lemma Arguments.IsTyped.ofWords {n : Nat} {ws : List Word} (h : a.IsTyped)
    (hb : Arguments.ofWords n a ws = .ok b) : b.IsTyped := by
  induction n generalizing a ws with
  | zero => cases hb; exact h
  | succ n ih =>
    cases ws with
    | nil => cases hb; exact h
    | cons w ws =>
      cases w with
      | mark => exact ih (a := { a with unknown := a.unknown ++ ["--"] }) h hb
      | plain s => exact ih (a := { a with unknown := a.unknown ++ [s] }) h hb
      | noFlag s => exact ih (a := { a with unknown := a.unknown ++ [s] }) h hb
      | flag f name value =>
        unfold Arguments.ofWords at hb
        cases value with
        | none =>
          obtain ⟨_, ⟨⟩, hb⟩ := bind_eq_ok_iff.1 hb
          obtain ⟨⟨value', ws'⟩, htaken, hb⟩ := bind_eq_ok_iff.1 hb
          exact h.goOn (fun _ => ih) (List.forall_mem_nil _) (isSome_of_takeValue htaken) hb
        | some v =>
          obtain ⟨⟨raised, last, rest⟩, hunpack, hb⟩ := bind_eq_ok_iff.1 hb
          obtain ⟨⟨value', ws'⟩, htaken, hb⟩ := bind_eq_ok_iff.1 hb
          exact h.goOn (fun _ => ih) (takesValue_of_unpack hunpack) (isSome_of_takeValue htaken) hb

/-- **Flags have values that they can have.** -/
theorem isTyped_of_ofList {args : List String} (h : Arguments.ofList args = .ok a) : a.IsTyped := by
  unfold Arguments.ofList at h
  obtain ⟨ws, -, h⟩ := bind_eq_ok_iff.1 h
  obtain ⟨b, hb, h⟩ := bind_eq_ok_iff.1 h
  have hb : b.IsTyped := Arguments.IsTyped.ofWords (a := ⟨[], []⟩) nofun hb
  split at h
  · cases h
    exact hb
  · split at h
    · cases h
    · split at h <;> cases h
      exact hb

end ApiContract.CommandLine
