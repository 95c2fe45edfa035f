import ApiContract.Text.Blank
import Mathlib.Data.List.DropRight

/-!
Blanks at the ends. Dropping them gives the same for a list and for the list with more of them at its ends
(`trim_padded`), and a list is what is left of it between blanks (`exists_padding`), so what is left has
none to lose (`trim_trim`).
-/

namespace ApiContract.Text

variable {α : Type} {p : α → Bool} {l m r : List α}

lemma trim_eq (p : α → Bool) (m : List α) : trim p m = (m.dropWhile p).rdropWhile p := rfl

/-- A list is what is left of it, between what is dropped. -/
lemma exists_padding (p : α → Bool) (m : List α) :
    ∃ l r, (∀ x ∈ l, p x = true) ∧ (∀ x ∈ r, p x = true) ∧ m = l ++ trim p m ++ r := by
  refine ⟨m.takeWhile p, (m.dropWhile p).rtakeWhile p, ?_, ?_, ?_⟩
  · exact fun x hx => List.mem_takeWhile_imp hx
  · exact fun x hx => List.mem_rtakeWhile_imp hx
  · rw [List.append_assoc, trim_eq, List.rdropWhile_append_rtakeWhile, List.takeWhile_append_dropWhile]

lemma rdropWhile_append_of_pos (hr : ∀ x ∈ r, p x = true) :
    (m ++ r).rdropWhile p = m.rdropWhile p := by
  rw [List.rdropWhile, List.reverse_append,
    List.dropWhile_append_of_pos fun x hx => hr x (List.mem_reverse.1 hx), List.rdropWhile]

/-- **More blanks at the ends change nothing.** -/
theorem trim_padded (hl : ∀ x ∈ l, p x = true) (hr : ∀ x ∈ r, p x = true) :
    trim p (l ++ m ++ r) = trim p m := by
  rw [trim_eq, List.append_assoc, List.dropWhile_append_of_pos hl, List.dropWhile_append]
  split
  · rename_i hempty
    rw [trim_eq, List.isEmpty_iff.1 hempty, List.dropWhile_eq_nil_iff.2 hr]
  · rw [rdropWhile_append_of_pos hr, trim_eq]

lemma trim_trim (p : α → Bool) (m : List α) : trim p (trim p m) = trim p m := by
  obtain ⟨l, r, hl, hr, hm⟩ := exists_padding p m
  calc trim p (trim p m) = trim p (l ++ trim p m ++ r) := (trim_padded hl hr).symm
    _ = trim p m := by rw [← hm]

end ApiContract.Text
