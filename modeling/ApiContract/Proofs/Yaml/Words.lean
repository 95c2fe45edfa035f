import ApiContract.Proofs.Files.Path
import ApiContract.Proofs.Value.JsonWriting
import ApiContract.Proofs.Yaml.StyledText
import ApiContract.Yaml.Meaning
import Mathlib.Data.List.TakeDrop
import Mathlib.Data.List.TakeWhile
import Mathlib.Tactic.IntervalCases

/-!
The words for nothing, for truth values and for whole numbers: they are written without quotes, and mean the
same again if they are not too long.
-/

namespace ApiContract.Yaml

open ApiContract.Files ApiContract.Json ApiContract.Number ApiContract.Text

variable {c : Char} {cs ds : List Char} {n : ℤ} {v : Value}

/-- Whether a value is written as a word: nothing, a truth value or a whole number. -/
def isWord : Value → Bool
  | .null | .bool _ | .int _ => true
  | _ => false

/-! ### Digits -/

/-- The digits. -/
def digits : List Char := ['0', '1', '2', '3', '4', '5', '6', '7', '8', '9']

lemma mem_digits (h : c.isDigit = true) : c ∈ digits := by
  have hc : c = Char.ofNat c.toNat := (Char.ofNat_toNat c).symm
  simp only [Char.isDigit, Bool.and_eq_true, decide_eq_true_eq, ge_iff_le] at h
  obtain ⟨hle, hge⟩ := h
  have hle : 48 ≤ c.toNat := hle
  have hge : c.toNat ≤ 57 := hge
  rw [hc]
  generalize c.toNat = k at hle hge
  interval_cases k <;> decide

lemma isVisible_of_mem_digits (h : c ∈ '-' :: digits) :
    isVisible c = true ∧ isBreak c = false ∧ c ≠ ' ' ∧ c ≠ ':' ∧ c ≠ '#' := by
  have hall : ∀ c ∈ '-' :: digits,
      isVisible c = true ∧ isBreak c = false ∧ c ≠ ' ' ∧ c ≠ ':' ∧ c ≠ '#' :=
    List.forall_iff_forall_mem.1 (by decide)
  exact hall c h

lemma startsWithMark_of_mem_digits (h : c ∈ digits) (cs : List Char) : startsWithMark (c :: cs) = false := by
  simp only [digits, List.mem_cons, List.not_mem_nil, or_false] at h
  rcases h with rfl | rfl | rfl | rfl | rfl | rfl | rfl | rfl | rfl | rfl <;> simp [startsWithMark]

lemma hasInnerMark_of_forall (h : ∀ c ∈ cs, c ≠ ':' ∧ c ≠ '#') (gap : Bool) : hasInnerMark gap cs = false := by
  induction cs generalizing gap with
  | nil => rfl
  | cons c cs ih =>
    obtain ⟨⟨hcolon, hhash⟩, hcs⟩ := List.forall_mem_cons.1 h
    rw [hasInnerMark, ih hcs]
    simp [hcolon, hhash]

/-- A numeral, with or without a sign, has no marks. -/
lemma allowsPlain_numeral (hne : ds ≠ []) (hds : ∀ c ∈ ds, c ∈ digits) (negative : Bool) :
    allowsPlain ((if negative then ['-'] else []) ++ ds) = true := by
  obtain ⟨d, ds, rfl⟩ := List.exists_cons_of_ne_nil hne
  have hd := hds d List.mem_cons_self
  have hall : ∀ c ∈ (if negative then ['-'] else []) ++ d :: ds, c ∈ '-' :: digits := by
    intro c hc
    rcases List.mem_append.1 hc with hc | hc
    · cases negative
      · cases hc
      · cases List.mem_singleton.1 hc
        exact List.mem_cons_self
    · exact List.mem_cons_of_mem _ (hds c hc)
  have hmarks : hasMarks ((if negative then ['-'] else []) ++ d :: ds) = false := by
    have hinner : ∀ cs : List Char, (∀ c ∈ cs, c ∈ '-' :: digits) → ∀ gap, hasInnerMark gap cs = false :=
      fun cs hcs =>
      hasInnerMark_of_forall fun c hc => (isVisible_of_mem_digits (hcs c hc)).2.2.2
    have hdash : '-' ≠ d ∧ '.' ≠ d := by
      have hne : ∀ c ∈ digits, '-' ≠ c ∧ '.' ≠ c := List.forall_iff_forall_mem.1 (by decide)
      exact hne d hd
    have hgap : isGapChar d = false := by
      have hgap : ∀ c ∈ digits, isGapChar c = false := List.forall_iff_forall_mem.1 (by decide)
      exact hgap d hd
    cases negative with
    | false =>
      have hrest := hinner ds (fun c hc => List.mem_cons_of_mem _ (hds c (List.mem_cons_of_mem _ hc)))
      simp [hasMarks, List.isPrefixOf, hdash, startsWithMark_of_mem_digits hd, hrest]
    | true =>
      have hrest := hinner (d :: ds) (fun c hc => List.mem_cons_of_mem _ (hds c hc))
      simp [hasMarks, List.isPrefixOf, hdash, hrest, startsWithMark, gapNext, hgap]
  have hlast : ((if negative then ['-'] else []) ++ d :: ds).getLast? ≠ some ' ' := fun h =>
    (isVisible_of_mem_digits (hall _ (List.mem_of_mem_getLast? h))).2.2.1 rfl
  have hhead : ((if negative then ['-'] else []) ++ d :: ds).head? ≠ some ' ' := fun h =>
    (isVisible_of_mem_digits (hall _ (List.mem_of_mem_head? h))).2.2.1 rfl
  simp only [allowsPlain, Bool.and_eq_true, Bool.not_eq_true', bne_iff_ne, ne_eq, List.all_eq_true, isMultiline,
    List.any_eq_false, Bool.not_eq_true]
  refine ⟨⟨⟨⟨⟨by simp, fun c hc => (isVisible_of_mem_digits (hall c hc)).1⟩,
    fun c hc => (isVisible_of_mem_digits (hall c hc)).2.1⟩, hhead⟩, hlast⟩, hmarks⟩

/-- The text of a whole number is a numeral. -/
lemma exists_numeral (n : ℤ) : ∃ m, (intText n).toList = (if n < 0 then ['-'] else []) ++ Nat.toDigits 10 m ∧
    m = n.natAbs := by
  cases n with
  | ofNat k => exact ⟨k, by rw [intText, Nat.toList_repr]; simp, rfl⟩
  | negSucc k =>
    refine ⟨k + 1, ?_, rfl⟩
    rw [intText, String.toList_append, Nat.toList_repr, if_pos (Int.negSucc_lt_zero k)]
    rfl

lemma mem_digits_of_mem_toDigits {m : ℕ} (h : c ∈ Nat.toDigits 10 m) : c ∈ digits :=
  mem_digits (Nat.isDigit_of_mem_toDigits (by decide) (Nat.le_refl _) h)

/-- **Words have no marks.** -/
theorem allowsPlain_of_isWord (h : isWord v = true) (hcs : plainText? v = some cs) : allowsPlain cs = true := by
  cases v with
  | null => cases hcs; simp [allowsPlain, isMultiline, hasMarks, startsWithMark, hasInnerMark]; decide
  | bool b =>
    cases b <;> cases hcs <;> simp [allowsPlain, isMultiline, hasMarks, startsWithMark, hasInnerMark] <;> decide
  | int n =>
    obtain ⟨m, heq, -⟩ := exists_numeral n
    cases hcs
    have hplain := allowsPlain_numeral (Nat.toDigits_ne_nil (n := m) (b := 10))
      (fun c => mem_digits_of_mem_toDigits) (decide (n < 0))
    rw [heq]
    simpa using hplain
  | _ => cases h

/-! ### What words mean -/

/-- A numeral with or without a sign is none of some words that begin in other ways. -/
lemma contains_numeral (words : List String) (hwords : ∀ w ∈ words, w.toList.head? ∉ ('-' :: digits).map some)
    {s : String} (hs : ∃ c ∈ s.toList.head?, c ∈ '-' :: digits) : words.contains s = false := by
  obtain ⟨c, hc, hmem⟩ := hs
  exact Bool.eq_false_iff.2 fun h => hwords s (List.contains_iff_mem.1 h) (List.mem_map.2 ⟨c, hmem, hc.symm⟩)

section Numeral

variable {m : ℕ} {negative : Bool} {s : String}
  (hs : s.toList = (if negative then ['-'] else []) ++ Nat.toDigits 10 m)
include hs

lemma exists_head_numeral : ∃ c ∈ s.toList.head?, c ∈ '-' :: digits := by
  obtain ⟨d, ds, hds⟩ := List.exists_cons_of_ne_nil (Nat.toDigits_ne_nil (n := m) (b := 10))
  have hd : d ∈ digits := mem_digits_of_mem_toDigits (m := m) (by rw [hds]; exact List.mem_cons_self)
  rw [hs, hds]
  cases negative
  · exact ⟨d, rfl, List.mem_cons_of_mem _ hd⟩
  · exact ⟨'-', rfl, List.mem_cons_self⟩

lemma mem_of_mem_numeral (hc : c ∈ s.toList) : c ∈ '-' :: digits := by
  rw [hs] at hc
  rcases List.mem_append.1 hc with hc | hc
  · cases negative
    · cases hc
    · cases List.mem_singleton.1 hc
      exact List.mem_cons_self
  · exact List.mem_cons_of_mem _ (mem_digits_of_mem_toDigits hc)

lemma readSign_numeral : readSign s.toList = (negative, Nat.toDigits 10 m) := by
  rw [hs]
  refine readSign_append ?_ (isWhole_toDigits m).1
  cases negative <;> simp

end Numeral

lemma isNumeral_of_digits (hne : ds ≠ []) (hds : ∀ c ∈ ds, c.isDigit = true) : isNumeral ds = true := by
  obtain ⟨d, ds, rfl⟩ := List.exists_cons_of_ne_nil hne
  obtain ⟨hd, hds⟩ := List.forall_mem_cons.1 hds
  rw [isNumeral, hd, Bool.true_and, List.all_eq_true]
  exact fun c hc => by rw [isDigitOrBar, hds c hc, Bool.true_or]

/-- A zero comes first only if it is the number. -/
lemma toDigits_cases (m : ℕ) : Nat.toDigits 10 m = ['0'] ∨ ∀ cs, Nat.toDigits 10 m ≠ '0' :: cs := by
  rcases (isWhole_toDigits m).2 with hlength | hhead
  · obtain ⟨d, hd⟩ := List.length_eq_one_iff.1 hlength
    by_cases hzero : d = '0'
    · exact .inl (hzero ▸ hd)
    · refine .inr fun cs h => hzero ?_
      rw [hd] at h
      exact (List.cons.inj h).1
  · refine .inr fun cs h => hhead ?_
    rw [h]
    rfl

lemma colon_not_mem_toDigits (m : ℕ) : ':' ∉ Nat.toDigits 10 m := fun h => by
  have := (isWhole_toDigits m).1.2 _ h
  cases this

lemma isUnsignedInt_toDigits (m : ℕ) : isUnsignedInt (Nat.toDigits 10 m) = true := by
  rcases toDigits_cases m with hzero | hother
  · rw [hzero]
    rfl
  · obtain ⟨hne, hdigit⟩ := (isWhole_toDigits m).1
    rw [isUnsignedInt, Files.splitAt_eq_splitOn, List.splitOn_eq_singleton (colon_not_mem_toDigits m)]
    · simp [isNumeral_of_digits hne hdigit]
    · exact fun cs => hother _
    · exact fun cs => hother _
    · exact hother

lemma isUnsignedReal_toDigits (m : ℕ) : isUnsignedReal (Nat.toDigits 10 m) = false := by
  have hdot : ∀ c ∈ Nat.toDigits 10 m, (c ≠ '.' : Bool) = true := by
    intro c hc
    have hall : ∀ c ∈ digits, (c ≠ '.' : Bool) = true := List.forall_iff_forall_mem.1 (by decide)
    exact hall c (mem_digits_of_mem_toDigits hc)
  have hspan : (Nat.toDigits 10 m).span (· ≠ '.') = (Nat.toDigits 10 m, []) := by
    rw [List.span_eq_takeWhile_dropWhile, List.takeWhile_eq_self_iff.2 hdot, List.dropWhile_eq_nil_iff.2 hdot]
  rw [isUnsignedReal, isDecimal, hspan]
  rfl

lemma ofScalar_numeral {m : ℕ} {negative : Bool} {s : String}
    (hs : s.toList = (if negative then ['-'] else []) ++ Nat.toDigits 10 m) : Kind.ofScalar s = .int := by
  have hhead := exists_head_numeral hs
  have hfeed : '\n' ∉ s.toList := fun h => absurd (mem_of_mem_numeral hs h) (by decide)
  have htruth : (trueWords.contains s || falseWords.contains s) = false := by
    rw [contains_numeral _ (by decide) hhead, contains_numeral _ (by decide) hhead]
    rfl
  have hreal : isReal s = false := by
    have hinfinity : infinityWords.contains (String.ofList (Nat.toDigits 10 m)) = false :=
      contains_numeral _ (by decide) (exists_head_numeral
        (show (String.ofList (Nat.toDigits 10 m)).toList =
          (if false then ['-'] else []) ++ Nat.toDigits 10 m from
          String.toList_ofList ..))
    rw [isReal, readSign_numeral hs]
    simp only [isUnsignedReal_toDigits, hinfinity, contains_numeral nanWords (by decide) hhead, Bool.false_or]
    split
    · rename_i hdot
      obtain ⟨c, hc, hmem⟩ := hhead
      rw [hdot] at hc
      cases hc
      exact absurd hmem (by decide)
    · rfl
  have hint : isInt s = true := by rw [isInt, readSign_numeral hs, isUnsignedInt_toDigits]
  rw [Kind.ofScalar, withoutLastFeed_of_not_mem hfeed, Kind.ofText, htruth, hreal, hint]
  rfl

/-! ### Reading whole numbers -/

lemma digitIn?_of_isDigit (h : c.isDigit = true) : digitIn? 10 c = some (c.toNat - 48) := by
  have hall : ∀ c ∈ digits, digitIn? 10 c = some (c.toNat - 48) :=
    List.forall_iff_forall_mem.1 (by decide)
  exact hall c (mem_digits h)

lemma readDigits_of_isDigits (hne : ds ≠ []) (hds : ∀ c ∈ ds, c.isDigit = true) :
    readDigits (digitIn? 10) ds = some (ds.map fun c => c.toNat - 48) := by
  induction ds with
  | nil => exact absurd rfl hne
  | cons d ds ih =>
    obtain ⟨hd, hds⟩ := List.forall_mem_cons.1 hds
    have hvalue := digitIn?_of_isDigit hd
    cases ds with
    | nil => rw [readDigits, hvalue]; rfl
    | cons e ds =>
      rw [readDigits, hvalue, ih (List.cons_ne_nil _ _) hds]
      · rfl
      · exact nofun
      · rintro cs h
        have := hds e List.mem_cons_self
        rw [(List.cons.inj h).1] at this
        cases this

lemma trim_of_isDigits (hds : ∀ c ∈ ds, c.isDigit = true) : trim isBlank ds = ds := by
  have hblank : ∀ c, c.isDigit = true → isBlank c = false := by
    have hall : ∀ c ∈ digits, isBlank c = false := List.forall_iff_forall_mem.1 (by decide)
    exact fun c hc => hall c (mem_digits hc)
  have hdrop : ∀ l : List Char, (∀ c ∈ l, c.isDigit = true) → l.dropWhile isBlank = l := fun l hl =>
    dropWhile_of_head? fun c hc => hblank c (hl c (List.mem_of_mem_head? hc))
  rw [trim, hdrop ds hds, hdrop _ fun c hc => hds c (List.mem_reverse.1 hc), List.reverse_reverse]

lemma intIn_toDigits {m : ℕ} (hm : (Nat.toDigits 10 m).length ≤ digitLimit) :
    intIn 10 (Nat.toDigits 10 m) = .ok m := by
  obtain ⟨hne, hdigit⟩ := (isWhole_toDigits m).1
  have hsign : readSign (trim isBlank (Nat.toDigits 10 m)) = (false, Nat.toDigits 10 m) := by
    rw [trim_of_isDigits hdigit]
    exact readSign_append
      (show (false, []) ∈ [(true, ['-']), (false, ['+']), (false, [])] by simp) ⟨hne, hdigit⟩
  have hlength : ¬(digitLimit < ((Nat.toDigits 10 m).map fun c => c.toNat - 48).length) := by
    rw [List.length_map, not_lt]
    exact hm
  have hbase : dropBaseMark 10 (Nat.toDigits 10 m) = Nat.toDigits 10 m := by
    unfold dropBaseMark
    split
    · rename_i hletter
      cases hletter
    · rfl
  rw [intIn, readIntIn, String.toList_ofList, hsign]
  simp only [hbase, readDigits_of_isDigits hne hdigit]
  rw [if_neg (fun h => hlength h.2), ofDigits_map, Nat.ofDigitChars_ten_toDigits]
  rfl

lemma unsignedInt_toDigits {m : ℕ} (hm : (Nat.toDigits 10 m).length ≤ digitLimit) :
    unsignedInt (Nat.toDigits 10 m) = .ok m := by
  rcases toDigits_cases m with hzero | hother
  · have hvalue := Nat.ofDigitChars_ten_toDigits (n := m)
    rw [hzero] at hvalue ⊢
    rw [← hvalue]
    rfl
  · have hcolon : (Nat.toDigits 10 m).contains ':' = false := by simpa using colon_not_mem_toDigits m
    rw [unsignedInt]
    · rw [hcolon, if_neg Bool.false_ne_true, intIn_toDigits hm]
    · exact Nat.toDigits_ne_nil
    · exact hother _
    · exact fun _ => hother _
    · exact fun _ => hother _
    · exact hother

lemma length_toDigits_le (hn : isLong n = false) : (Nat.toDigits 10 n.natAbs).length ≤ digitLimit := by
  have hpos : 0 < digitLimit := by decide
  rw [isLong, decide_eq_false_iff_not, Nat.not_le] at hn
  generalize digitLimit = k at hn hpos ⊢
  exact (Nat.length_toDigits_le_iff (by decide) hpos).2 hn

lemma intOf_intText (hn : isLong n = false) : intOf (intText n) = .ok n := by
  obtain ⟨m, hs, rfl⟩ := exists_numeral n
  have hs' : (intText n).toList = (if decide (n < 0) then ['-'] else []) ++ Nat.toDigits 10 n.natAbs := by
    simpa using hs
  have hbars : dropBars (intText n) = (intText n).toList := by
    refine List.filter_eq_self.2 fun c hc => ?_
    have hall : ∀ c ∈ '-' :: digits, (c != '_') = true := List.forall_iff_forall_mem.1 (by decide)
    exact hall c (mem_of_mem_numeral hs' hc)
  have hne : (intText n).toList ≠ [] := by
    rw [hs]
    exact List.append_ne_nil_of_right_ne_nil _ Nat.toDigits_ne_nil
  have hvalue := unsignedInt_toDigits (length_toDigits_le hn)
  rw [intOf, hbars]
  split
  · rename_i hnil
    exact absurd hnil hne
  · rw [readSign_numeral hs']
    simp only [hvalue]
    change Except.ok (if decide (n < 0) = true then -(n.natAbs : ℤ) else n.natAbs) = _
    clear hn
    congr 1
    simp only [decide_eq_true_eq]
    split_ifs <;> omega

/-- Whether a value is a whole number that is too long. -/
def isLongWord : Value → Bool
  | .int n => isLong n
  | _ => false

/-- **A word means what it stands for.** -/
theorem scalarValue_of_isWord (h : isWord v = true) (hlong : isLongWord v = false)
    (hcs : plainText? v = some cs) :
    scalarValue (.ofTag (Kind.ofScalar (String.ofList cs)).tag) (String.ofList cs) = .ok v := by
  cases v with
  | null =>
    have hpurpose : Purpose.ofTag (Kind.ofScalar "null").tag = .null := by decide +kernel
    cases hcs
    rw [String.ofList_toList, hpurpose]
    rfl
  | bool b =>
    have hpurpose : ∀ w ∈ ["true", "false"], Purpose.ofTag (Kind.ofScalar w).tag = .bool := by decide +kernel
    have hword : truthWords.lookup (lower "true") = some true ∧
        truthWords.lookup (lower "false") = some false := by
      decide +kernel
    cases b <;> cases hcs <;> rw [String.ofList_toList, hpurpose _ (by simp), scalarValue]
    · rw [hword.2]
    · rw [hword.1]
  | int n =>
    cases hcs
    obtain ⟨m, hs, -⟩ := exists_numeral n
    rw [String.ofList_toList, ofScalar_numeral
      (show _ = (if decide (n < 0) then ['-'] else []) ++ Nat.toDigits 10 m by simpa using hs)]
    change (intOf (intText n)).map Value.int = _
    rw [intOf_intText hlong]
    rfl
  | _ => cases h

end ApiContract.Yaml
