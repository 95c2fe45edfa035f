import Mathlib.Tactic.Lemma

/-!
Computations that fail: which of the steps of a computation a failure comes from, and computations that
fail alike.
-/

namespace ApiContract

variable {ε ε' α β γ δ : Type} {x : Except ε α} {y : Except ε β} {e : ε}

/-! ### The step that fails -/

lemma bind_eq_ok_iff {f : α → Except ε β} {b : β} :
    x >>= f = .ok b ↔ ∃ a, x = .ok a ∧ f a = .ok b := by
  cases x with
  | error e => simp [bind, Except.bind]
  | ok a => simp [bind, Except.bind]

lemma bind_eq_error_iff {f : α → Except ε β} :
    x >>= f = .error e ↔ x = .error e ∨ ∃ a, x = .ok a ∧ f a = .error e := by
  cases x <;> simp [bind, Except.bind]

lemma map_eq_error_iff {f : α → β} : x.map f = .error e ↔ x = .error e := by
  cases x <;> simp [Except.map]

lemma map_eq_ok_iff {f : α → β} {b : β} : x.map f = .ok b ↔ ∃ a, x = .ok a ∧ f a = b := by
  cases x <;> simp [Except.map]

lemma mapError_eq_error_iff {f : ε → ε'} {e : ε'} :
    x.mapError f = .error e ↔ ∃ e', x = .error e' ∧ f e' = e := by
  cases x with
  | error e' => exact ⟨fun h => ⟨e', rfl, Except.error.inj h⟩, by rintro ⟨_, ⟨⟩, rfl⟩; rfl⟩
  | ok a => exact ⟨nofun, fun ⟨_, h, _⟩ => nomatch h⟩

lemma mapError_eq_ok_iff {f : ε → ε'} {a : α} : x.mapError f = .ok a ↔ x = .ok a := by
  cases x with
  | error e => exact ⟨nofun, nofun⟩
  | ok b => exact ⟨fun h => congrArg _ (Except.ok.inj h), by rintro ⟨⟩; rfl⟩

lemma exists_of_mapM_eq_error {f : α → Except ε β} {l : List α} (h : l.mapM f = .error e) :
    ∃ a ∈ l, f a = .error e := by
  induction l with
  | nil => cases h
  | cons a l ih =>
    rw [List.mapM_cons] at h
    rcases bind_eq_error_iff.1 h with ha | ⟨b, -, h⟩
    · exact ⟨a, List.mem_cons_self, ha⟩
    · rcases bind_eq_error_iff.1 h with hl | ⟨bs, -, h⟩
      · obtain ⟨a', ha', hf⟩ := ih hl
        exact ⟨a', List.mem_cons_of_mem _ ha', hf⟩
      · cases h

lemma bind_congr_of_ok {f g : α → Except ε β} (h : ∀ a, x = .ok a → f a = g a) :
    x >>= f = x >>= g := by
  cases x with
  | error e => rfl
  | ok a => exact h a rfl

/-! ### Computations that fail alike -/

/-- Both fail in the same way, or none of them. -/
def FailAlike (x : Except ε α) (y : Except ε β) : Prop := ∀ e, x = .error e ↔ y = .error e

lemma failAlike_ok (a : α) (b : β) : FailAlike (.ok a : Except ε α) (.ok b : Except ε β) :=
  fun _ => ⟨nofun, nofun⟩

lemma FailAlike.bind {f : α → Except ε γ} {g : β → Except ε δ} (h : FailAlike x y)
    (hf : ∀ a b, FailAlike (f a) (g b)) : FailAlike (x >>= f) (y >>= g) := by
  intro e
  rw [bind_eq_error_iff, bind_eq_error_iff, h e]
  cases x with
  | error e' => rw [(h e').1 rfl]; simp
  | ok a =>
    cases y with
    | error e' => exact absurd ((h e').2 rfl) nofun
    | ok b => simpa using hf a b e

lemma FailAlike.map (h : FailAlike x y) (f : α → γ) (g : β → δ) :
    FailAlike (x.map f) (y.map g) := by
  intro e
  rw [map_eq_error_iff, map_eq_error_iff, h e]

end ApiContract
