import ApiContract.Yaml.Cursor
import Mathlib.Data.List.Basic
import Mathlib.Tactic.Common

/-!
Where a cursor is after it has passed over some characters: each of them counts for the index, those on a line
for the column, and a line feed begins a line.
-/

namespace ApiContract.Yaml.Cursor

variable {c : Cursor} {ch : Char} {k : ℕ} {r w w' : List Char}

/-- A character on a line that takes up a column. -/
def TakesColumn (ch : Char) : Prop := isLineEnd ch = false ∧ ch ≠ byteOrderMark

lemma after_rest (c : Cursor) (ch : Char) (r : List Char) : (c.after ch r).rest = r := by
  rw [after]
  split_ifs <;> rfl

lemma line_le_after (c : Cursor) (ch : Char) (r : List Char) : c.line ≤ (c.after ch r).line := by
  rw [after]
  split_ifs
  · exact Nat.le_succ _
  · exact Nat.le_refl _
  · exact Nat.le_refl _

lemma after_of_takesColumn (h : TakesColumn ch) (c : Cursor) (r : List Char) :
    c.after ch r = ⟨r, c.index + 1, c.line, c.column + 1⟩ := by
  obtain ⟨hend, hmark⟩ := h
  simp only [isLineEnd, Bool.or_eq_false_iff] at hend
  rw [after, if_neg (by simp [hend.1, hend.2]), if_neg (by simpa using hmark)]

lemma after_feed (c : Cursor) (r : List Char) : c.after '\n' r = ⟨r, c.index + 1, c.line + 1, 0⟩ := rfl

/-! ### Several characters -/

lemma moveTo_self (h : c.rest = r) : c.moveTo r = c := by
  rw [moveTo, h, Nat.sub_self, advance]

lemma moveTo_cons (h : c.rest = ch :: (w ++ r)) : c.moveTo r = (c.after ch (w ++ r)).moveTo r := by
  have hlength : (ch :: (w ++ r)).length - r.length = (w ++ r).length - r.length + 1 := by simp; omega
  rw [moveTo, moveTo, h, hlength, advance, h, after_rest]

/-- On the way to a place the cursor is at each place before. -/
lemma moveTo_moveTo (h : c.rest = w ++ (w' ++ r)) : (c.moveTo (w' ++ r)).moveTo r = c.moveTo r := by
  induction w generalizing c with
  | nil => rw [moveTo_self (r := w' ++ r) h]
  | cons ch w ih =>
    have h' : c.rest = ch :: (w ++ w' ++ r) := by rw [h, List.append_assoc]; rfl
    rw [moveTo_cons h, ih (after_rest _ _ _), moveTo_cons h', List.append_assoc]

lemma moveTo_rest (h : c.rest = w ++ r) : (c.moveTo r).rest = r := by
  induction w generalizing c with
  | nil => rw [moveTo_self (r := r) h]; exact h
  | cons ch w ih => rw [moveTo_cons h, ih (after_rest _ _ _)]

lemma length_rest_advance (n : ℕ) (c : Cursor) : (c.advance n).rest.length ≤ c.rest.length := by
  induction n generalizing c with
  | zero => exact Nat.le_of_eq (by rw [advance])
  | succ n ih =>
    rw [advance]
    split
    · exact Nat.le_refl _
    · rename_i h
      refine Nat.le_trans (ih _) ?_
      rw [after_rest, h]
      exact Nat.le_succ _

lemma line_le_moveTo (h : c.rest = w ++ r) : c.line ≤ (c.moveTo r).line := by
  induction w generalizing c with
  | nil => exact Nat.le_of_eq (by rw [moveTo_self (r := r) h])
  | cons ch w ih => rw [moveTo_cons h]; exact Nat.le_trans (line_le_after c ch _) (ih (after_rest _ _ _))

/-- Characters on a line. -/
lemma moveTo_of_takesColumn (h : c.rest = w ++ r) (hw : ∀ ch ∈ w, TakesColumn ch) :
    c.moveTo r = ⟨r, c.index + w.length, c.line, c.column + w.length⟩ := by
  induction w generalizing c with
  | nil => rw [moveTo_self (r := r) h]; cases c; cases h; rfl
  | cons ch w ih =>
    obtain ⟨hch, hw⟩ := List.forall_mem_cons.1 hw
    rw [moveTo_cons h, ih (after_rest _ _ _) hw, after_of_takesColumn hch, List.length_cons]
    simp only [Cursor.mk.injEq, true_and]
    omega

lemma takesColumn_of_mem_replicate {ch : Char} (h : ch ∈ List.replicate k ' ') : TakesColumn ch := by
  rw [List.eq_of_mem_replicate h]
  exact ⟨rfl, by decide⟩

/-- A new line with spaces in front. -/
lemma moveTo_newLine (h : c.rest = '\n' :: (List.replicate k ' ' ++ r)) :
    c.moveTo r = ⟨r, c.index + 1 + k, c.line + 1, k⟩ := by
  rw [moveTo_cons h, moveTo_of_takesColumn (after_rest _ _ _) fun _ => takesColumn_of_mem_replicate,
    after_feed]
  simp

/-- A new line somewhere, with spaces in front. -/
lemma moveTo_line (h : c.rest = w ++ '\n' :: (List.replicate k ' ' ++ r)) :
    c.line < (c.moveTo r).line ∧ (c.moveTo r).column = k := by
  have hmove : (c.moveTo ('\n' :: List.replicate k ' ' ++ r)).moveTo r = c.moveTo r := moveTo_moveTo h
  have hrest : (c.moveTo ('\n' :: List.replicate k ' ' ++ r)).rest = '\n' :: (List.replicate k ' ' ++ r) :=
    moveTo_rest h
  have hline := line_le_moveTo (w := w) (r := '\n' :: List.replicate k ' ' ++ r) h
  rw [← hmove, moveTo_newLine hrest]
  exact ⟨Nat.lt_succ_of_le hline, rfl⟩

/-- On a line the column does not fall. -/
lemma column_le_moveTo (h : c.rest = w ++ r) (hw : ∀ ch ∈ w, isLineEnd ch = false) :
    c.column ≤ (c.moveTo r).column := by
  induction w generalizing c with
  | nil => exact Nat.le_of_eq (by rw [moveTo_self (r := r) h])
  | cons ch w ih =>
    obtain ⟨hch, hw⟩ := List.forall_mem_cons.1 hw
    have hafter : c.column ≤ (c.after ch (w ++ r)).column := by
      simp only [isLineEnd, Bool.or_eq_false_iff] at hch
      rw [after, if_neg (by simp [hch.1, hch.2])]
      simp only
      split_ifs <;> omega
    rw [moveTo_cons h]
    exact Nat.le_trans hafter (ih (after_rest _ _ _) hw)

end ApiContract.Yaml.Cursor
