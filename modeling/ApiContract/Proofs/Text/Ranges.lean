import ApiContract.Text.Blank
import ApiContract.Text.Word
import ApiContract.Xml.Character
import Mathlib.Data.List.TakeWhile

/-!
Classes of characters that have nothing in common. Two tables of ranges are compared range by range
(`inRanges_eq_false_of_apart`), and so no blank is a character of words or of names.
-/

namespace ApiContract.Text

/-- No range of one table meets a range of the other one. -/
def areApart (r s : List (Nat × Nat)) : Bool :=
  r.all fun p => s.all fun q => p.2 < q.1 || q.2 < p.1

lemma inRanges_eq_false_of_apart {r s : List (Nat × Nat)} {n : Nat} (h : areApart r s = true)
    (hn : inRanges r n = true) : inRanges s n = false := by
  unfold inRanges at hn ⊢
  obtain ⟨p, hp, hpn⟩ := List.any_eq_true.1 hn
  rw [List.any_eq_false]
  intro q hq hqn
  have hpq := List.all_eq_true.1 (List.all_eq_true.1 h p hp) q hq
  simp only [Bool.or_eq_true, Bool.and_eq_true, decide_eq_true_eq] at hpn hqn hpq
  omega

lemma toNat_of_isAlpha {c : Char} (h : c.isAlpha = true) : 65 ≤ c.toNat ∧ c.toNat ≤ 122 := by
  have hletter : ('A'.val ≤ c.val ∧ c.val ≤ 'Z'.val) ∨ ('a'.val ≤ c.val ∧ c.val ≤ 'z'.val) :=
    (Bool.or_eq_true_iff.1 h).imp (fun h => of_decide_eq_true h) fun h =>
      (Bool.and_eq_true_iff.1 h).imp (fun h => of_decide_eq_true h) fun h => of_decide_eq_true h
  simp only [UInt32.le_iff_toNat_le] at hletter
  have : c.toNat = c.val.toNat := rfl
  have : 'A'.val.toNat = 65 := rfl
  have : 'Z'.val.toNat = 90 := rfl
  have : 'a'.val.toNat = 97 := rfl
  have : 'z'.val.toNat = 122 := rfl
  omega

lemma toNat_of_isDigit {c : Char} (h : c.isDigit = true) : 48 ≤ c.toNat :=
  UInt32.le_iff_toNat_le.1 (of_decide_eq_true (Bool.and_eq_true_iff.1 h).1)

lemma isBlank_ascii {c : Char} (h : isBlank c = true) (hc : c.toNat < 128) :
    c.toNat ≤ 32 ∧ c.isAlphanum = false := by
  have hn : c.toNat ≤ 32 := by
    obtain ⟨p, hp, hpc⟩ := List.any_eq_true.1 h
    simp only [Bool.and_eq_true, decide_eq_true_eq] at hpc
    simp only [blankRanges, List.mem_cons, List.not_mem_nil, or_false] at hp
    rcases hp with rfl | rfl | rfl | rfl | rfl | rfl | rfl | rfl | rfl | rfl <;> simp at hpc <;> omega
  refine ⟨hn, Bool.eq_false_iff.2 fun ha => ?_⟩
  rcases Bool.or_eq_true_iff.1 ha with ha | ha
  · have := toNat_of_isAlpha ha
    omega
  · have := toNat_of_isDigit ha
    omega

/-- No blank is a character of words. -/
theorem isWord_of_isBlank {c : Char} (h : isBlank c = true) : isWord c = false := by
  unfold isWord
  split
  · rename_i hc
    obtain ⟨hn, ha⟩ := isBlank_ascii h hc
    rw [ha, Bool.false_or, beq_eq_false_iff_ne]
    rintro rfl
    exact absurd hn (by decide)
  · exact inRanges_eq_false_of_apart (by decide +kernel) h

end ApiContract.Text

namespace ApiContract.Xml

open ApiContract.Text

/-- No blank is a character of names. -/
theorem isNameChar_of_isBlank {a : Alphabet} {c : Char} (h : isBlank c = true) :
    a.isNameChar c = false := by
  unfold Alphabet.isNameChar
  split
  · rename_i hc
    obtain ⟨hn, ha⟩ := isBlank_ascii h hc
    have hne : ∀ x : Char, 32 < x.toNat → (c == x) = false := fun x hx => by
      rw [beq_eq_false_iff_ne]
      rintro rfl
      omega
    rw [ha, hne '_' (by decide), hne '-' (by decide), hne '.' (by decide)]
    rfl
  · have hsign : a.isLatinSign c = false := by
      have hne : c ≠ 'ª' ∧ c ≠ 'µ' ∧ c ≠ 'º' := by
        refine ⟨?_, ?_, ?_⟩ <;> rintro rfl <;> exact absurd h (by decide)
      simp [Alphabet.isLatinSign, hne]
    rw [inRanges_eq_false_of_apart (by decide +kernel) h,
      inRanges_eq_false_of_apart (by decide +kernel) h, hsign]
    rfl

end ApiContract.Xml
