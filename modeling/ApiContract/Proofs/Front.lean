import Mathlib.Data.List.TakeWhile
import Mathlib.Tactic.Lemma

/-!
The front of a list, where a condition holds. A list on which it holds, before one that begins with something else,
is this front (`takeWhile_append_of_head?`), and what is behind it is the rest (`dropWhile_append_of_head?`).
-/

namespace ApiContract

variable {α : Type} {p : α → Bool} {l m : List α}

lemma takeWhile_of_head? (hm : ∀ a ∈ m.head?, p a = false) : m.takeWhile p = [] := by
  cases m with
  | nil => rfl
  | cons a m => exact List.takeWhile_cons_of_neg (by simp [hm a rfl])

lemma dropWhile_of_head? (hm : ∀ a ∈ m.head?, p a = false) : m.dropWhile p = m := by
  cases m with
  | nil => rfl
  | cons a m => exact List.dropWhile_cons_of_neg (by simp [hm a rfl])

lemma takeWhile_append_of_head? (hl : ∀ a ∈ l, p a = true) (hm : ∀ a ∈ m.head?, p a = false) :
    (l ++ m).takeWhile p = l := by
  rw [List.takeWhile_append_of_pos hl, takeWhile_of_head? hm, List.append_nil]

lemma dropWhile_append_of_head? (hl : ∀ a ∈ l, p a = true) (hm : ∀ a ∈ m.head?, p a = false) :
    (l ++ m).dropWhile p = m := by
  rw [List.dropWhile_append_of_pos hl, dropWhile_of_head? hm]

/-- Up to the first place of an element. -/
lemma takeWhile_ne_append [DecidableEq α] {a : α} (h : a ∉ l) : (l ++ a :: m).takeWhile (· ≠ a) = l :=
  takeWhile_append_of_head? (fun _ hb => decide_eq_true fun e => h (e ▸ hb))
    (by rintro _ ⟨⟩; exact decide_eq_false fun h => h rfl)

lemma dropWhile_ne_append [DecidableEq α] {a : α} (h : a ∉ l) :
    (l ++ a :: m).dropWhile (· ≠ a) = a :: m :=
  dropWhile_append_of_head? (fun _ hb => decide_eq_true fun e => h (e ▸ hb))
    (by rintro _ ⟨⟩; exact decide_eq_false fun h => h rfl)

end ApiContract
