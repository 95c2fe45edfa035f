import ApiContract.Proofs.Value.JsonGrammar
import ApiContract.Text.Quoted
import Mathlib.Algebra.Group.Nat.Defs

/-!
Texts in quotes, as messages show them, and hexadecimal digits. Digits are read as the number that they are the
digits of (`exists_digits_hex`). A text in quotes ends where its last quote stands, whatever follows, and no two
texts look the same in quotes (`quoted_append_inj`).
-/

namespace ApiContract.Text

open ApiContract.Json ApiContract.Number

variable {q c d : Char} {r r' : List Char}

/-! ### Hexadecimal digits -/

lemma ofDigits_concat (base : ℕ) (ds : List ℕ) (d : ℕ) :
    ofDigits base (ds ++ [d]) = ofDigits base ds * base + d := by
  rw [ofDigits, List.foldl_append]
  rfl

/-- The last digits of a number are read as what they stand for, in small letters and in capitals. -/
lemma exists_digits_hex (w n : ℕ) : ∃ ds, (hex w n).mapM hexValue? = some ds ∧
    ((hex w n).map Char.toUpper).mapM hexValue? = some ds ∧ ds.length = w ∧
      ofDigits 16 ds = n % 16 ^ w := by
  induction w generalizing n with
  | zero => exact ⟨[], rfl, rfl, rfl, (Nat.mod_one n).symm⟩
  | succ w ih =>
    obtain ⟨ds, hsmall, hcapital, hlength, hvalue⟩ := ih (n / 16)
    have hdigit := Nat.mod_lt n (show 16 > 0 by decide)
    have hlast : hexValue? (hexDigit (n % 16)) = some (n % 16) :=
      hexValue?_of_isHexDigit ⟨hdigit, .inl rfl⟩
    have hupper : hexValue? (hexDigit (n % 16)).toUpper = some (n % 16) :=
      hexValue?_of_isHexDigit ⟨hdigit, .inr rfl⟩
    refine ⟨ds ++ [n % 16], ?_, ?_, ?_, ?_⟩
    · rw [hex, List.mapM_append, hsmall, List.mapM_cons, hlast]
      rfl
    · rw [hex, List.map_append, List.mapM_append, hcapital, List.map_singleton, List.mapM_cons, hupper]
      rfl
    · rw [List.length_append, hlength, List.length_singleton]
    · rw [ofDigits_concat, hvalue, Nat.pow_succ']
      have := Nat.mod_mul (x := n) (a := 16) (b := 16 ^ w)
      omega

lemma length_hex (w n : ℕ) : (hex w n).length = w := by
  induction w generalizing n with
  | zero => rfl
  | succ w ih => rw [hex, List.length_append, ih, List.length_singleton]

/-! ### Characters in quotes -/

/-- The character that so many hexadecimal digits stand for, and what follows. -/
def cutHex (w : ℕ) (cs : List Char) : Option (Char × List Char) :=
  ((cs.take w).mapM hexValue?).map fun ds => (Char.ofNat (ofDigits 16 ds), cs.drop w)

/-- The first character of a text in quotes, unless it is the last quote, and what follows. -/
def cutChar (q : Char) : List Char → Option (Char × List Char)
  | '\\' :: k :: cs =>
    if k = 'n' then some ('\n', cs)
    else if k = 'r' then some ('\r', cs)
    else if k = 't' then some ('\t', cs)
    else if k = 'x' then cutHex 2 cs
    else if k = 'u' then cutHex 4 cs
    else if k = 'U' then cutHex 8 cs
    else some (k, cs)
  | c :: cs => if c = q then none else some (c, cs)
  | [] => none

lemma cutHex_hex {w : ℕ} (h : c.toNat < 16 ^ w) (r : List Char) :
    cutHex w (hex w c.toNat ++ r) = some (c, r) := by
  obtain ⟨ds, hds, -, -, hvalue⟩ := exists_digits_hex w c.toNat
  rw [cutHex, List.take_left' (length_hex w _), List.drop_left' (length_hex w _), hds, Option.map_some,
    hvalue, Nat.mod_eq_of_lt h, Char.ofNat_toNat]

lemma cutChar_of_ne (hslash : c ≠ '\\') (hq : c ≠ q) (r : List Char) :
    cutChar q (c :: r) = some (c, r) := by
  unfold cutChar
  split
  · rename_i heq
    cases heq
    exact absurd rfl hslash
  · rename_i heq
    cases heq
    exact if_neg hq
  · rename_i heq
    cases heq

lemma quoteFor_eq (cs : List Char) : quoteFor cs = '\'' ∨ quoteFor cs = '"' := by
  unfold quoteFor
  split
  · exact .inr rfl
  · exact .inl rfl

lemma cutChar_quoteChar (hq : q = '\'' ∨ q = '"') (c : Char) (r : List Char) :
    cutChar q (quoteChar q c ++ r) = some (c, r) := by
  have hlt : c.toNat < 16 ^ 8 := c.val.toNat_lt
  unfold quoteChar
  split_ifs with hmark hfeed hreturn htab hprint hbyte hword
  · rcases Bool.or_eq_true_iff.1 hmark with h | h
    · rw [beq_iff_eq.1 h]
      rcases hq with rfl | rfl <;> rfl
    · rw [beq_iff_eq.1 h]
      rfl
  · rw [beq_iff_eq.1 hfeed]
    rfl
  · rw [beq_iff_eq.1 hreturn]
    rfl
  · rw [beq_iff_eq.1 htab]
    rfl
  · rw [Bool.or_eq_true, beq_iff_eq, beq_iff_eq, not_or] at hmark
    exact cutChar_of_ne hmark.2 hmark.1 r
  · exact cutHex_hex (w := 2) hbyte r
  · exact cutHex_hex (w := 4) hword r
  · exact cutHex_hex (w := 8) hlt r

lemma cutChar_quote (hq : q = '\'' ∨ q = '"') (r : List Char) : cutChar q (q :: r) = none := by
  rcases hq with rfl | rfl <;> rfl

lemma flatMap_quoteChar_inj (hq : q = '\'' ∨ q = '"') {cs ds : List Char}
    (h : cs.flatMap (quoteChar q) ++ q :: r = ds.flatMap (quoteChar q) ++ q :: r') : cs = ds := by
  have hcut := congrArg (cutChar q) h
  induction cs generalizing ds with
  | nil =>
    cases ds with
    | nil => rfl
    | cons d ds =>
      rw [List.flatMap_cons, List.append_assoc, cutChar_quoteChar hq] at hcut
      rw [List.flatMap_nil, List.nil_append, cutChar_quote hq] at hcut
      cases hcut
  | cons c cs ih =>
    rw [List.flatMap_cons, List.append_assoc, cutChar_quoteChar hq] at hcut
    cases ds with
    | nil =>
      rw [List.flatMap_nil, List.nil_append, cutChar_quote hq] at hcut
      cases hcut
    | cons d ds =>
      rw [List.flatMap_cons, List.append_assoc, cutChar_quoteChar hq] at hcut
      obtain ⟨rfl, hrest⟩ := Prod.mk.inj (Option.some.inj hcut)
      rw [ih hrest (congrArg (cutChar q) hrest)]

/-- **No two texts look the same in quotes, whatever follows.** -/
theorem quoted_append_inj {s t : String}
    (h : (quoted s).toList ++ r = (quoted t).toList ++ r') : s = t := by
  simp only [quoted, String.toList_ofList, List.cons_append, List.append_assoc, List.nil_append,
    List.cons.injEq] at h
  obtain ⟨hq, h⟩ := h
  rw [← hq] at h
  exact String.toList_inj.1 (flatMap_quoteChar_inj (quoteFor_eq _) h)

end ApiContract.Text
