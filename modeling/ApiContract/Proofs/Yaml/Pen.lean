import ApiContract.Yaml.Layout
import Mathlib.Data.List.Basic
import Mathlib.Tactic.Common

/-!
What the steps of a pen write, and where it is afterwards.
-/

namespace ApiContract.Yaml.Pen

variable {p : Pen} {n : ℕ}

@[simp] lemma put_written (p : Pen) (cs : List Char) : (p.put cs).written = cs.reverse ++ p.written := rfl

@[simp] lemma put_column (p : Pen) (cs : List Char) : (p.put cs).column = p.column + cs.length := rfl

@[simp] lemma put_apart (p : Pen) (cs : List Char) : (p.put cs).apart = p.apart := rfl

@[simp] lemma put_fresh (p : Pen) (cs : List Char) : (p.put cs).fresh = p.fresh := rfl

@[simp] lemma put_nil (p : Pen) : p.put [] = p := rfl

lemma put_put (p : Pen) (cs ds : List Char) : (p.put cs).put ds = p.put (cs ++ ds) := by
  simp [put, Nat.add_assoc]

@[simp] lemma settle_written (p : Pen) : p.settle.written = p.written := rfl

@[simp] lemma settle_column (p : Pen) : p.settle.column = p.column := rfl

@[simp] lemma settle_fresh (p : Pen) : p.settle.fresh = false := rfl

@[simp] lemma settle_apart (p : Pen) : p.settle.apart = false := rfl

/-- A line that is begun at an indent. -/
def onLine (written : List Char) (n : ℕ) : Pen := ⟨List.replicate n ' ' ++ '\n' :: written, n, true, true⟩

/-- A new line is begun if something is on the line, or if the indent is passed. -/
lemma indent_eq_onLine (h : p.fresh = false ∨ n < p.column) : p.indent n = onLine p.written n := by
  have hbreak : ¬ p.fresh = true ∨ n < p.column ∨ (p.column = n ∧ ¬ p.apart = true) := by
    rcases h with h | h
    · exact .inl (by rw [h]; exact Bool.false_ne_true)
    · exact .inr (.inl h)
  rw [indent, if_pos hbreak]
  cases n with
  | zero => rfl
  | succ n => simp [breakLine, put, onLine]

/-- The line goes on if only indicators are on it and the indent is not passed. -/
lemma indent_of_fresh (hfresh : p.fresh = true) (h : p.column < n ∨ p.column = n ∧ p.apart = true) :
    p.indent n = ⟨List.replicate (n - p.column) ' ' ++ p.written, n, true, true⟩ := by
  have hstay : ¬(¬ p.fresh = true ∨ n < p.column ∨ (p.column = n ∧ ¬ p.apart = true)) := by
    rintro (h' | h' | ⟨h', hapart⟩)
    · exact h' hfresh
    · omega
    · exact hapart (h.resolve_left (by omega)).2
  rw [indent, if_neg hstay]
  simp only
  split_ifs with hlt
  · rw [put, List.reverse_replicate, List.length_replicate, hfresh, Nat.add_sub_cancel' (Nat.le_of_lt hlt)]
  · obtain ⟨rfl, hapart⟩ := h.resolve_left hlt
    rw [Nat.sub_self, List.replicate_zero, List.nil_append]
    cases p
    cases hfresh
    cases hapart
    rfl

end ApiContract.Yaml.Pen
