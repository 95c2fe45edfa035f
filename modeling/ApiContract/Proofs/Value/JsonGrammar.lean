import ApiContract.Proofs.Front
import ApiContract.Text.Quoted
import ApiContract.Value.JsonReader
import Mathlib.Data.List.TakeWhile
import Mathlib.Data.Option.Basic

/-!
The grammar of JSON. It says which characters stand for a value (`IsText`), and not how they are read. What
the grammar allows between quotes is cut and read as the text that it stands for (`SpellsText.cutText`,
`SpellsText.exists_units`), and what it allows for a number is read as this number
(`SpellsNumber.readWord?`).
-/

namespace ApiContract.Json

open ApiContract.Number ApiContract.Text

/-! ### The grammar -/

/-- A character that may stand between tokens. -/
def isSpace (c : Char) : Bool := c == ' ' || c == '\n' || c == '\r' || c == '\t'

/-- The letters after a backslash, and what they stand for. -/
def shortEscapes : List (Char × Char) :=
  [('"', '"'), ('\\', '\\'), ('/', '/'), ('b', '\x08'), ('f', '\x0c'), ('n', '\n'), ('r', '\r'), ('t', '\t')]

/-- A hexadecimal digit for a number below sixteen, in small or capital letters. -/
def IsHexDigit (n : ℕ) (c : Char) : Prop := n < 16 ∧ (c = hexDigit n ∨ c = (hexDigit n).toUpper)

/-- Four hexadecimal digits for a number of sixteen bits, after a backslash and a letter. -/
inductive SpellsUnit : ℕ → List Char → Prop
  | mk {k l m n : ℕ} {a b c d : Char} (ha : IsHexDigit k a) (hb : IsHexDigit l b) (hc : IsHexDigit m c)
      (hd : IsHexDigit n d) :
      SpellsUnit (k * 4096 + l * 256 + m * 16 + n) ['\\', 'u', a, b, c, d]

/-- What stands for a text between its quotes: for each character itself, unless it is a control, a quote or
a backslash, or a letter after a backslash, or the number of the character, or those of two surrogates. -/
inductive SpellsText : List Char → List Char → Prop
  | nil : SpellsText [] []
  | plain {c : Char} {s cs : List Char} (hc : 0x20 ≤ c.toNat) (hquote : c ≠ '"') (hslash : c ≠ '\\')
      (h : SpellsText s cs) : SpellsText (c :: s) (c :: cs)
  | short {x c : Char} {s cs : List Char} (hx : (x, c) ∈ shortEscapes) (h : SpellsText s cs) :
      SpellsText (c :: s) ('\\' :: x :: cs)
  | unit {c : Char} {u s cs : List Char} (hu : SpellsUnit c.toNat u) (h : SpellsText s cs) :
      SpellsText (c :: s) (u ++ cs)
  | units {c : Char} {high low : ℕ} {u v s cs : List Char} (hhigh : 0xd800 ≤ high ∧ high < 0xdc00)
      (hlow : 0xdc00 ≤ low ∧ low < 0xe000)
      (hc : c.toNat = 0x10000 + (high - 0xd800) * 0x400 + (low - 0xdc00)) (hu : SpellsUnit high u)
      (hv : SpellsUnit low v) (h : SpellsText s cs) : SpellsText (c :: s) (u ++ (v ++ cs))

/-- Digits, at least one. -/
def IsDigits (ds : List Char) : Prop := ds ≠ [] ∧ ∀ c ∈ ds, c.isDigit = true

/-- The digits of a whole number: no zero comes before others. -/
def IsWhole (ds : List Char) : Prop := IsDigits ds ∧ (ds.length = 1 ∨ ds.head? ≠ some '0')

/-- A number with its sign. -/
def signed (negative : Bool) (n : ℕ) : ℤ := if negative then -n else n

/-- The sign of a number. -/
def minus (negative : Bool) : List Char := if negative then ['-'] else []

/-- The digits of a fraction, if there is one. -/
inductive SpellsFraction : List Char → List Char → Prop
  | none : SpellsFraction [] []
  | some {ds : List Char} (h : IsDigits ds) : SpellsFraction ds ('.' :: ds)

/-- The exponent, zero if there is none. -/
inductive SpellsExponent : ℤ → List Char → Prop
  | none : SpellsExponent 0 []
  | some {negative : Bool} {e : Char} {sign ds : List Char} (he : e = 'e' ∨ e = 'E')
      (hsign : (negative, sign) ∈ [(true, ['-']), (false, ['+']), (false, [])]) (h : IsDigits ds) :
      SpellsExponent (signed negative (Nat.ofDigitChars 10 ds 0)) (e :: (sign ++ ds))

/-- A number: whole, or with a fraction or an exponent. -/
inductive SpellsNumber : Value → List Char → Prop
  | whole (negative : Bool) {ds : List Char} (h : IsWhole ds) :
      SpellsNumber (.int (signed negative (Nat.ofDigitChars 10 ds 0))) (minus negative ++ ds)
  | real (negative : Bool) {ds fs f e : List Char} {n : ℤ} (h : IsWhole ds) (hf : SpellsFraction fs f)
      (he : SpellsExponent n e) (hne : f ++ e ≠ []) :
      SpellsNumber
        (.real (Binary64.ofDecimal negative (Nat.ofDigitChars 10 (ds ++ fs) 0) (n - fs.length)))
        (minus negative ++ (ds ++ (f ++ e)))

/-- A part of a text: a value, the items of a list or the fields of a map. -/
inductive Part where
  | value (v : Value)
  | items (vs : List Value)
  | fields (fs : List (String × Value))

/-- What stands for a part. -/
inductive Spells : Part → List Char → Prop
  | null : Spells (.value .null) "null".toList
  | yes : Spells (.value (.bool true)) "true".toList
  | no : Spells (.value (.bool false)) "false".toList
  | number {v : Value} {cs : List Char} (h : SpellsNumber v cs) : Spells (.value v) cs
  | text {s cs : List Char} (h : SpellsText s cs) :
      Spells (.value (.str (String.ofList s))) ('"' :: (cs ++ ['"']))
  | emptyList {w : List Char} (hw : w.all isSpace) : Spells (.value (.list [])) ('[' :: (w ++ [']']))
  | list {vs : List Value} {cs : List Char} (h : Spells (.items vs) cs) :
      Spells (.value (.list vs)) ('[' :: (cs ++ [']']))
  | emptyMap {w : List Char} (hw : w.all isSpace) :
      Spells (.value (.map [])) ('\x7b' :: (w ++ ['\x7d']))
  | map {fs : List (String × Value)} {cs : List Char} (h : Spells (.fields fs) cs) :
      Spells (.value (.map (fieldsOf fs))) ('\x7b' :: (cs ++ ['\x7d']))
  | item {v : Value} {w cs w' : List Char} (hw : w.all isSpace) (h : Spells (.value v) cs)
      (hw' : w'.all isSpace) : Spells (.items [v]) (w ++ (cs ++ w'))
  | field {v : Value} {k w ks w₁ w₂ cs w' : List Char} (hw : w.all isSpace) (hk : SpellsText k ks)
      (hw₁ : w₁.all isSpace) (hw₂ : w₂.all isSpace) (h : Spells (.value v) cs) (hw' : w'.all isSpace) :
      Spells (.fields [(String.ofList k, v)])
        (w ++ ('"' :: (ks ++ '"' :: (w₁ ++ ':' :: (w₂ ++ (cs ++ w'))))))
  | moreItems {us vs : List Value} {cs ds : List Char} (h : Spells (.items us) cs)
      (h' : Spells (.items vs) ds) : Spells (.items (us ++ vs)) (cs ++ ',' :: ds)
  | moreFields {es fs : List (String × Value)} {cs ds : List Char} (h : Spells (.fields es) cs)
      (h' : Spells (.fields fs) ds) : Spells (.fields (es ++ fs)) (cs ++ ',' :: ds)

/-- A text in JSON stands for a value. -/
inductive IsText (v : Value) : String → Prop
  | mk {w cs w' : List Char} (hw : w.all isSpace) (h : Spells (.value v) cs) (hw' : w'.all isSpace) :
      IsText v (String.ofList (w ++ (cs ++ w')))

/-! ### Reading what stands for a text -/

lemma hexValue?_of_isHexDigit {n : ℕ} {c : Char} (h : IsHexDigit n c) : hexValue? c = some n := by
  have hall : ∀ n < 16, hexValue? (hexDigit n) = some n ∧ hexValue? (hexDigit n).toUpper = some n := by
    decide
  obtain ⟨hn, rfl | rfl⟩ := h
  · exact (hall n hn).1
  · exact (hall n hn).2

lemma ne_of_isHexDigit {n : ℕ} {c : Char} (h : IsHexDigit n c) : c ≠ '"' ∧ c ≠ '\\' := by
  have hall : ∀ n < 16, (hexDigit n ≠ '"' ∧ hexDigit n ≠ '\\') ∧
      ((hexDigit n).toUpper ≠ '"' ∧ (hexDigit n).toUpper ≠ '\\') := by
    decide
  obtain ⟨hn, rfl | rfl⟩ := h
  · exact (hall n hn).1
  · exact (hall n hn).2

lemma escaped?_of_mem {x c : Char} (h : (x, c) ∈ shortEscapes) : escaped? x = some c := by
  simp only [shortEscapes, List.mem_cons, Prod.mk.injEq, List.not_mem_nil, or_false] at h
  rcases h with ⟨rfl, rfl⟩ | ⟨rfl, rfl⟩ | ⟨rfl, rfl⟩ | ⟨rfl, rfl⟩ | ⟨rfl, rfl⟩ | ⟨rfl, rfl⟩ | ⟨rfl, rfl⟩ |
    ⟨rfl, rfl⟩ <;> rfl

lemma cutText_cons {c : Char} {cs : List Char} (hquote : c ≠ '"') (hslash : c ≠ '\\') :
    cutText (c :: cs) = (cutText cs).map fun p => (c :: p.1, p.2) := by
  rw [cutText]
  · rintro rfl
    exact hquote rfl
  · rintro x rest rfl
    cases hslash rfl

lemma SpellsUnit.exists_digits {n : ℕ} {u : List Char} (h : SpellsUnit n u) : ∃ a b c d,
    u = ['\\', 'u', a, b, c, d] ∧ hexFour? a b c d = some n ∧
      ∀ x ∈ [a, b, c, d], x ≠ '"' ∧ x ≠ '\\' := by
  obtain @⟨k, l, m, n, a, b, c, d, ha, hb, hc, hd⟩ := h
  refine ⟨a, b, c, d, rfl, ?_, ?_⟩
  · rw [hexFour?, hexValue?_of_isHexDigit ha, hexValue?_of_isHexDigit hb, hexValue?_of_isHexDigit hc,
      hexValue?_of_isHexDigit hd]
    refine congrArg some ?_
    omega
  · simp only [List.forall_mem_cons, List.not_mem_nil, false_implies, implies_true, and_true]
    exact ⟨ne_of_isHexDigit ha, ne_of_isHexDigit hb, ne_of_isHexDigit hc,
      ne_of_isHexDigit hd⟩

lemma SpellsUnit.cutText {n : ℕ} {u : List Char} (h : SpellsUnit n u) (cs : List Char) :
    cutText (u ++ cs) = (cutText cs).map fun p => (u ++ p.1, p.2) := by
  obtain ⟨a, b, c, d, rfl, -, hplain⟩ := h.exists_digits
  simp only [List.forall_mem_cons, List.not_mem_nil, false_implies, implies_true, and_true] at hplain
  obtain ⟨ha, hb, hc, hd⟩ := hplain
  simp only [List.cons_append, List.nil_append, Json.cutText, cutText_cons ha.1 ha.2, cutText_cons hb.1 hb.2,
    cutText_cons hc.1 hc.2, cutText_cons hd.1 hd.2, Option.map_map]
  rfl

lemma SpellsUnit.unescape? {n : ℕ} {u : List Char} (h : SpellsUnit n u) (cs : List Char) :
    unescape? (u ++ cs) = (unescape? cs).map (n :: ·) := by
  obtain ⟨a, b, c, d, rfl, hn, -⟩ := h.exists_digits
  simp only [List.cons_append, List.nil_append, Json.unescape?, hn]
  rfl

/-- The closing quote is the first one that is not part of the text. -/
lemma SpellsText.cutText {s cs : List Char} (h : SpellsText s cs) (rest : List Char) :
    cutText (cs ++ '"' :: rest) = some (cs, rest) := by
  induction h with
  | nil => rfl
  | plain hc hquote hslash _ ih => rw [List.cons_append, cutText_cons hquote hslash, ih, Option.map_some]
  | short hx _ ih => rw [List.cons_append, List.cons_append, Json.cutText, ih, Option.map_some]
  | unit hu _ ih => rw [List.append_assoc, hu.cutText, ih, Option.map_some]
  | units _ _ _ hu hv _ ih =>
    rw [List.append_assoc, hu.cutText, List.append_assoc, hv.cutText, ih, Option.map_some, Option.map_some]

lemma joinUnits_nil : joinUnits [] = [] := by
  rw [joinUnits]
  rintro _ _ _ ⟨⟩

lemma joinUnits_cons (c : Char) (us : List ℕ) : joinUnits (c.toNat :: us) = c.toNat :: joinUnits us := by
  have hc : c.toNat < 0xd800 ∨ 0xdfff < c.toNat ∧ c.toNat < 0x110000 := c.valid
  cases us with
  | nil =>
    rw [joinUnits_nil, joinUnits]
    rintro _ _ _ ⟨⟩
  | cons m us =>
    rw [joinUnits, if_neg (by omega)]

lemma joinUnits_cons_cons {c : Char} {high low : ℕ} (hhigh : 0xd800 ≤ high ∧ high < 0xdc00)
    (hlow : 0xdc00 ≤ low ∧ low < 0xe000)
    (hc : c.toNat = 0x10000 + (high - 0xd800) * 0x400 + (low - 0xdc00)) (us : List ℕ) :
    joinUnits (high :: low :: us) = c.toNat :: joinUnits us := by
  have hpair : 0xd800 ≤ high ∧ high < 0xdc00 ∧ 0xdc00 ≤ low ∧ low < 0xe000 :=
    ⟨hhigh.1, hhigh.2, hlow.1, hlow.2⟩
  have hcode : joinSurrogates high low = c.toNat := hc.symm
  rw [joinUnits, if_pos hpair, hcode]

/-- The code points of what stands for a text are those of the text, with two surrogates for a character
where they stand for it. -/
lemma SpellsText.exists_units {s cs : List Char} (h : SpellsText s cs) :
    ∃ us, unescape? cs = some us ∧ joinUnits us = s.map Char.toNat := by
  induction h with
  | nil => exact ⟨[], rfl, joinUnits_nil⟩
  | @plain c s cs hc hquote hslash _ ih =>
    obtain ⟨us, hus, hs⟩ := ih
    have hself : ¬(c.toNat < 0x20 ∨ c = '\\') := by simp [hslash, hc]
    refine ⟨c.toNat :: us, ?_, by rw [joinUnits_cons, hs, List.map_cons]⟩
    rw [Json.unescape?, if_neg hself, hus, Option.map_some]
    · rintro a b d e rest rfl
      cases hslash rfl
    · rintro d rest rfl
      cases hslash rfl
  | @short x c s cs hx _ ih =>
    obtain ⟨us, hus, hs⟩ := ih
    refine ⟨c.toNat :: us, ?_, by rw [joinUnits_cons, hs, List.map_cons]⟩
    have hletter : x ≠ 'u' := by rintro rfl; cases escaped?_of_mem hx
    rw [Json.unescape?, escaped?_of_mem hx, hus]
    · rfl
    · rintro a b d e rest rfl
      cases hletter rfl
  | @unit c u s cs hu _ ih =>
    obtain ⟨us, hus, hs⟩ := ih
    exact ⟨c.toNat :: us, by rw [hu.unescape?, hus, Option.map_some],
      by rw [joinUnits_cons, hs, List.map_cons]⟩
  | @units c high low u v s cs hhigh hlow hc hu hv _ ih =>
    obtain ⟨us, hus, hs⟩ := ih
    exact ⟨high :: low :: us, by rw [hu.unescape?, hv.unescape?, hus, Option.map_some, Option.map_some],
      by rw [joinUnits_cons_cons hhigh hlow hc, hs, List.map_cons]⟩

lemma mapM_ofCode? (s : List Char) : (s.map Char.toNat).mapM Letter.ofCode? = some (s.map .char) := by
  induction s with
  | nil => rfl
  | cons c s ih =>
    rw [List.map_cons, List.mapM_cons, Letter.ofCode?_toNat, ih]
    rfl

/-! ### Reading what stands for a number -/

lemma digitsOf?_of_isDigits {ds : List Char} (h : IsDigits ds) :
    digitsOf? ds = some (ds.map fun c => c.toNat - 48) := by
  obtain ⟨hne, hdigit⟩ := h
  have hmap : ∀ cs : List Char, (∀ c ∈ cs, c.isDigit = true) →
      (cs.mapM fun c => if c.isDigit then hexValue? c else none) = some (cs.map fun c => c.toNat - 48) := by
    intro cs hcs
    induction cs with
    | nil => rfl
    | cons c cs ih =>
      obtain ⟨hc, hcs⟩ := List.forall_mem_cons.1 hcs
      have hvalue : hexValue? c = some (c.toNat - 48) := by
        obtain ⟨hle, hge⟩ := Bool.and_eq_true_iff.1 hc
        exact if_pos ⟨of_decide_eq_true hle, of_decide_eq_true hge⟩
      rw [List.mapM_cons, if_pos hc, hvalue, ih hcs]
      rfl
  rw [digitsOf?, if_neg (by simpa using hne), hmap ds hdigit]

lemma ofDigits_map (ds : List Char) :
    ofDigits 10 (ds.map fun c => c.toNat - 48) = Nat.ofDigitChars 10 ds 0 := by
  rw [ofDigits, List.foldl_map, Nat.ofDigitChars]
  simp only [Nat.mul_comm]
  rfl

lemma isWordChar_of_isDigit {c : Char} (h : c.isDigit = true) : isWordChar c = true := by
  simp [isWordChar, Char.isAlphanum, h]

lemma guard_of {q : Prop} [Decidable q] (h : q) : (guard q : Option Unit) = some () := if_pos h

lemma readMagnitude?_whole (negative : Bool) {ds : List Char} (h : IsWhole ds) :
    readMagnitude? negative ds = some (.int (signed negative (Nat.ofDigitChars 10 ds 0))) := by
  have htake : (ds ++ []).takeWhile Char.isDigit = ds := takeWhile_append_of_head? h.1.2 (by simp)
  have hdrop : (ds ++ []).dropWhile Char.isDigit = [] := dropWhile_append_of_head? h.1.2 (by simp)
  rw [List.append_nil] at htake hdrop
  unfold readMagnitude?
  simp only [htake, hdrop, digitsOf?_of_isDigits h.1]
  simp [guard_of, h.2, signed, ofDigits_map]

lemma readSign_append {negative : Bool} {sign ds : List Char}
    (hsign : (negative, sign) ∈ [(true, ['-']), (false, ['+']), (false, [])]) (h : IsDigits ds) :
    readSign (sign ++ ds) = (negative, ds) := by
  simp only [List.mem_cons, Prod.mk.injEq, List.not_mem_nil, or_false] at hsign
  rcases hsign with ⟨rfl, rfl⟩ | ⟨rfl, rfl⟩ | ⟨rfl, rfl⟩
  · rfl
  · rfl
  · obtain ⟨c, ds, rfl⟩ := List.exists_cons_of_ne_nil h.1
    have hc := h.2 c List.mem_cons_self
    rw [List.nil_append, readSign]
    · rintro _ ⟨⟩
      cases hc
    · rintro _ ⟨⟩
      cases hc

lemma SpellsExponent.isDigit_head? {n : ℤ} {e : List Char} (h : SpellsExponent n e) :
    ∀ c ∈ e.head?, c.isDigit = false := by
  cases h with
  | none => exact nofun
  | some he =>
    rintro _ ⟨⟩
    rcases he with rfl | rfl <;> rfl

lemma readMagnitude?_real (negative : Bool) {ds fs f e : List Char} {n : ℤ} (h : IsWhole ds)
    (hf : SpellsFraction fs f) (he : SpellsExponent n e) (hne : f ++ e ≠ []) :
    readMagnitude? negative (ds ++ (f ++ e)) = some
      (.real (Binary64.ofDecimal negative (Nat.ofDigitChars 10 (ds ++ fs) 0) (n - fs.length))) := by
  have hstop : ∀ c ∈ (f ++ e).head?, c.isDigit = false := by
    cases hf with
    | none => exact he.isDigit_head?
    | some => rintro _ ⟨⟩; rfl
  have hempty : (f ++ e).isEmpty = false := by simpa using hne
  unfold readMagnitude?
  simp only [takeWhile_append_of_head? h.1.2 hstop, dropWhile_append_of_head? h.1.2 hstop, digitsOf?_of_isDigits h.1, hempty]
  cases hf with
  | none =>
    cases he with
    | none => exact absurd rfl hne
    | some he hsign hds =>
      rcases he with rfl | rfl <;>
        simp [guard_of, h.2, ← ofDigits_map, readSign_append hsign hds, digitsOf?_of_isDigits hds, signed]
  | @some fs hfs =>
    simp only [List.cons_append, takeWhile_append_of_head? hfs.2 he.isDigit_head?,
      dropWhile_append_of_head? hfs.2 he.isDigit_head?, digitsOf?_of_isDigits hfs]
    cases he with
    | none => simp [guard_of, h.2, ← ofDigits_map]
    | some he hsign hds =>
      simp [guard_of, h.2, ← ofDigits_map, he, readSign_append hsign hds, digitsOf?_of_isDigits hds, signed]

/-- The words that are no numbers. -/
def names : List String := ["null", "true", "false", "NaN", "Infinity", "-Infinity"]

/-- Whether a word begins with a digit, or with a sign and a digit. -/
def beginsNumber : List Char → Bool
  | '-' :: c :: _ => c.isDigit
  | c :: _ => c.isDigit
  | [] => false

/-- A word that begins like a number is read as one. -/
lemma readWord?_append (negative : Bool) {c : Char} {cs : List Char} (hc : c.isDigit = true) :
    readWord? (minus negative ++ c :: cs) = readMagnitude? negative (c :: cs) := by
  have hsign : c ≠ '-' := by
    rintro rfl
    cases hc
  have hbegins : beginsNumber (minus negative ++ c :: cs) = true := by
    cases negative with
    | false =>
      change beginsNumber (c :: cs) = true
      rw [beginsNumber, hc]
      exact fun _ _ h _ => hsign h
    | true => exact hc
  have hnames : ∀ s ∈ names, String.ofList (minus negative ++ c :: cs) ≠ s := by
    have hall : ∀ s ∈ names, beginsNumber s.toList = false := by decide
    rintro _ hs rfl
    have hname := hall _ hs
    rw [String.toList_ofList, hbegins] at hname
    cases hname
  unfold readWord?
  split
  · exact absurd ‹_› (hnames "null" (by decide))
  · exact absurd ‹_› (hnames "true" (by decide))
  · exact absurd ‹_› (hnames "false" (by decide))
  · exact absurd ‹_› (hnames "NaN" (by decide))
  · exact absurd ‹_› (hnames "Infinity" (by decide))
  · exact absurd ‹_› (hnames "-Infinity" (by decide))
  · cases negative with
    | false =>
      split
      · rename_i heq
        exact absurd (List.cons.inj heq).1 hsign
      · rfl
    | true => rfl

lemma SpellsNumber.readWord? {v : Value} {cs : List Char} (h : SpellsNumber v cs) : readWord? cs = some v := by
  cases h with
  | whole negative h =>
    obtain ⟨c, ds, rfl⟩ := List.exists_cons_of_ne_nil h.1.1
    rw [readWord?_append negative (h.1.2 c List.mem_cons_self), readMagnitude?_whole negative h]
  | real negative h hf he hne =>
    have hreal := readMagnitude?_real negative h hf he hne
    obtain ⟨c, ds, rfl⟩ := List.exists_cons_of_ne_nil h.1.1
    rw [List.cons_append, readWord?_append negative (h.1.2 c List.mem_cons_self), ← List.cons_append, hreal]

lemma SpellsFraction.isWordChar {fs f : List Char} (h : SpellsFraction fs f) :
    ∀ c ∈ f, isWordChar c = true := by
  cases h with
  | none => exact nofun
  | some h => exact List.forall_mem_cons.2 ⟨rfl, fun c hc => isWordChar_of_isDigit (h.2 c hc)⟩

lemma SpellsExponent.isWordChar {n : ℤ} {e : List Char} (h : SpellsExponent n e) :
    ∀ c ∈ e, isWordChar c = true := by
  cases h with
  | none => exact nofun
  | @some negative e sign ds he hsign h =>
    have hletter : Json.isWordChar e = true := by rcases he with rfl | rfl <;> rfl
    have hsign : ∀ c ∈ sign, Json.isWordChar c = true := by
      simp only [List.mem_cons, Prod.mk.injEq, List.not_mem_nil, or_false] at hsign
      rcases hsign with ⟨-, rfl⟩ | ⟨-, rfl⟩ | ⟨-, rfl⟩ <;> exact List.all_eq_true.1 (by decide)
    exact List.forall_mem_cons.2 ⟨hletter, List.forall_mem_append.2 ⟨hsign, fun c hc =>
      isWordChar_of_isDigit (h.2 c hc)⟩⟩

lemma SpellsNumber.isWordChar {v : Value} {cs : List Char} (h : SpellsNumber v cs) :
    ∀ c ∈ cs, isWordChar c = true := by
  have hminus : ∀ negative, ∀ c ∈ minus negative, Json.isWordChar c = true := by
    intro negative
    cases negative <;> exact List.all_eq_true.1 (by decide)
  cases h with
  | whole negative h =>
    exact List.forall_mem_append.2 ⟨hminus negative, fun c hc => isWordChar_of_isDigit (h.1.2 c hc)⟩
  | real negative h hf he hne =>
    exact List.forall_mem_append.2 ⟨hminus negative, List.forall_mem_append.2
      ⟨fun c hc => isWordChar_of_isDigit (h.1.2 c hc),
        List.forall_mem_append.2 ⟨hf.isWordChar, he.isWordChar⟩⟩⟩

lemma SpellsNumber.ne_nil {v : Value} {cs : List Char} (h : SpellsNumber v cs) : cs ≠ [] := by
  cases h with
  | whole negative h => exact List.append_ne_nil_of_right_ne_nil _ h.1.1
  | real negative h hf he hne =>
    exact List.append_ne_nil_of_right_ne_nil _ (List.append_ne_nil_of_left_ne_nil h.1.1 _)

end ApiContract.Json
