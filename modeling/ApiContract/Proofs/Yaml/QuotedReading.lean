import ApiContract.Proofs.Except
import ApiContract.Proofs.Front
import ApiContract.Proofs.Text.Quoted
import ApiContract.Yaml.Layout
import ApiContract.Yaml.Token.Quoted

/-!
Reading texts in quotes, one character after the other. `IsQuoted double w s` says that `w`, with quotes around
it, is read as `s`. A character that is written as it is, an escape, a fold and a run of line breaks are each
read as what they stand for.
-/

namespace ApiContract.Yaml

open ApiContract.Json ApiContract.Number ApiContract.Text

variable {double : Bool} {b c d : Char} {cs m r s w : List Char} {n : ℕ}

/-- The quote around a text. -/
def quoteMark (double : Bool) : Char := if double then '"' else '\''

/-- What is read before the rest. -/
def prepend {α : Type} (s : List α) (x : Except Fault (List α × List Char)) :
    Except Fault (List α × List Char) :=
  x.map fun p => (s ++ p.1, p.2)

/-- The characters that are read before the rest. -/
abbrev prependChars (s : List Char) (x : Except Fault (List Letter × List Char)) :
    Except Fault (List Letter × List Char) :=
  prepend (s.map .char) x

/-- With quotes around it a text is read as `s`. In single quotes another quote must not follow. -/
def IsQuoted (double : Bool) (w s : List Char) : Prop :=
  ∀ r, (∀ c ∈ r.head?, c ≠ '\'') →
    cutQuoted double (w ++ quoteMark double :: r) = .ok (s.map .char, r)

/-- The next character is no blank and ends no line. -/
def IsFirm (w : List Char) : Prop := ∀ c ∈ w.head?, isSpacing c = false ∧ isLineEnd c = false

/-- The next character that is no blank ends no line. -/
def IsJoined (w : List Char) : Prop := IsFirm (w.dropWhile isSpacing)

lemma isFirm_cons : IsFirm (c :: w) ↔ isSpacing c = false ∧ isLineEnd c = false := by
  simp [IsFirm]

lemma IsFirm.dropWhile (h : IsFirm w) : w.dropWhile isSpacing = w :=
  dropWhile_of_head? fun c hc => (h c hc).1

lemma IsFirm.isJoined (h : IsFirm w) : IsJoined w := by
  rw [IsJoined, h.dropWhile]
  exact h

lemma IsFirm.append (h : IsFirm w) (hm : IsFirm m) : IsFirm (w ++ m) := by
  cases w with
  | nil => exact hm
  | cons c w => exact isFirm_cons.2 (isFirm_cons.1 h)

lemma IsJoined.append (h : IsJoined w) (hm : IsFirm m) : IsJoined (w ++ m) := by
  induction w with
  | nil => exact hm.isJoined
  | cons c w ih =>
    by_cases hc : isSpacing c = true
    · rw [IsJoined, List.dropWhile_cons_of_pos hc] at h
      rw [IsJoined, List.cons_append, List.dropWhile_cons_of_pos hc]
      exact ih h
    · rw [IsJoined, List.dropWhile_cons_of_neg hc] at h
      rw [IsJoined, List.cons_append, List.dropWhile_cons_of_neg hc]
      exact isFirm_cons.2 (isFirm_cons.1 h)

lemma isJoined_cons_of_isSpacing (hc : isSpacing c = true) : IsJoined (c :: w) ↔ IsJoined w := by
  rw [IsJoined, List.dropWhile_cons_of_pos hc, IsJoined]

lemma cutBreak_eq_none (h : ∀ c ∈ w.head?, isLineEnd c = false) : cutBreak w = none := by
  cases w with
  | nil => rfl
  | cons c w =>
    have hc := h c rfl
    simp only [isLineEnd, isBreak, Bool.or_eq_false_iff] at hc
    unfold cutBreak
    split
    · rename_i heq
      cases heq
      simp at hc
    · rename_i heq
      cases heq
      simp [hc, isBreak]
    · rfl

lemma isFirm_quoteMark (double : Bool) (r : List Char) : IsFirm (quoteMark double :: r) := by
  cases double
  · exact isFirm_cons.2 (by decide)
  · exact isFirm_cons.2 (by decide)

/-! ### Pieces -/

lemma cutQuoted_quoteMark (h : ∀ c ∈ r.head?, c ≠ '\'') :
    cutQuoted double (quoteMark double :: r) = .ok ([], r) := by
  have hpiece (r' : List Char) : ¬ r = '\'' :: r' := fun heq => h '\'' (by rw [heq]; rfl) rfl
  rw [cutQuoted.eq_3 _ _ _ fun r' _ => hpiece r']
  cases double <;> rfl

/-- What is read first is read before the rest. -/
lemma cutQuoted_cons_of_piece {ls : List Letter} (hq : c ≠ quoteMark double)
    (hpiece : (if double && c == '\\' then (cutEscape m).map some
      else if isSpacing c || isLineEnd c then
        (cutGap (c :: m)).map fun (cs, rest) => some (cs.map .char, rest)
      else .ok (some ([.char c], m))) = .ok (some (ls, r))) (hlength : r.length ≤ m.length) :
    cutQuoted double (c :: m) = prepend ls (cutQuoted double r) := by
  have hq : (c == if double = true then '"' else '\'') = false := beq_false_of_ne hq
  have hlt : r.length < (c :: m).length := Nat.lt_succ_of_le hlength
  rw [cutQuoted.eq_def]
  simp only [hq, Bool.false_eq_true, if_false, hpiece, hlt, dif_pos]
  cases cutQuoted double r <;> rfl

lemma cutQuoted_char (hq : c ≠ quoteMark double) (hslash : double = true → c ≠ '\\')
    (hspace : isSpacing c = false) (hend : isLineEnd c = false) (m : List Char) :
    cutQuoted double (c :: m) = prependChars [c] (cutQuoted double m) := by
  have hslash : (double && c == '\\') = false := by
    cases double with
    | false => rfl
    | true => simpa using hslash rfl
  refine cutQuoted_cons_of_piece hq ?_ (Nat.le_refl _)
  rw [hslash, hspace, hend]
  rfl

lemma cutQuoted_slash {ls : List Letter} (hcut : cutEscape m = .ok (ls, r)) (hlength : r.length ≤ m.length) :
    cutQuoted true ('\\' :: m) = prepend ls (cutQuoted true r) :=
  cutQuoted_cons_of_piece (by decide) (by rw [if_pos (by decide), hcut]; rfl) hlength

lemma cutQuoted_gap (hc : isSpacing c = true ∨ isLineEnd c = true) (hcut : cutGap (c :: m) = .ok (s, r))
    (hlength : r.length ≤ m.length) : cutQuoted double (c :: m) = prependChars s (cutQuoted double r) := by
  have hne : ∀ d, isSpacing d = false → isLineEnd d = false → c ≠ d := by
    rintro d hs he rfl
    rw [hs, he] at hc
    simp at hc
  have hslash : (c == '\\') = false := beq_false_of_ne (hne _ rfl rfl)
  have hq : c ≠ quoteMark double := by
    cases double
    · exact hne _ rfl rfl
    · exact hne _ rfl rfl
  refine cutQuoted_cons_of_piece hq ?_ hlength
  rw [hslash, Bool.and_false, if_neg Bool.false_ne_true, if_pos (by simpa using hc), hcut]
  rfl

/-! ### Blanks and line breaks -/

lemma cutGap_of_isJoined (h : IsJoined m) (hne : m.dropWhile isSpacing ≠ []) :
    cutGap m = .ok (m.takeWhile isSpacing, m.dropWhile isSpacing) := by
  obtain ⟨c, w, hw⟩ := List.exists_cons_of_ne_nil hne
  have hbreak : cutBreak (c :: w) = none := cutBreak_eq_none fun d hd => (h d (hw ▸ hd)).2
  simp only [cutGap, hw, hbreak]

/-- A blank is read before the rest if no line ends behind it. -/
lemma cutQuoted_blank (hc : isSpacing c = true) (h : IsJoined m) (hne : m.dropWhile isSpacing ≠ []) :
    cutQuoted double (c :: m) = prependChars [c] (cutQuoted double m) := by
  have hdrop : (c :: m).dropWhile isSpacing = m.dropWhile isSpacing := List.dropWhile_cons_of_pos hc
  have hcut : cutGap (c :: m) = .ok (c :: m.takeWhile isSpacing, m.dropWhile isSpacing) := by
    rw [cutGap_of_isJoined ((isJoined_cons_of_isSpacing hc).2 h) (hdrop ▸ hne), hdrop,
      List.takeWhile_cons_of_pos hc]
  rw [cutQuoted_gap (.inl hc) hcut (List.dropWhile_suffix _).length_le]
  cases m with
  | nil => exact absurd rfl hne
  | cons d m =>
    by_cases hd : isSpacing d = true
    · have hrest : cutGap (d :: m) = .ok (d :: m.takeWhile isSpacing, m.dropWhile isSpacing) := by
        rw [cutGap_of_isJoined h hne, List.dropWhile_cons_of_pos hd, List.takeWhile_cons_of_pos hd]
      rw [cutQuoted_gap (.inl hd) hrest (List.dropWhile_suffix _).length_le, List.dropWhile_cons_of_pos hd,
        List.takeWhile_cons_of_pos hd]
      cases cutQuoted double (m.dropWhile isSpacing) <;> rfl
    · rw [List.dropWhile_cons_of_neg hd, List.takeWhile_cons_of_neg hd]

lemma atDocumentMark_of_ne (h : ∀ c ∈ m.head?, c ≠ '-' ∧ c ≠ '.') : atDocumentMark m = false := by
  cases m with
  | nil => rfl
  | cons c m =>
    obtain ⟨h₁, h₂⟩ := h c rfl
    simp [atDocumentMark, isDocumentMark, List.isPrefixOf, h₁.symm, h₂.symm]

/-- What a line break is read as. -/
def breakRead (b : Char) : Char := if b = '\x85' then '\n' else b

lemma cases_of_isBreak (h : isBreak b = true) : b = '\n' ∨ b = '\x85' ∨ b = '\u2028' ∨ b = '\u2029' := by
  simpa [isBreak, or_assoc] using h

lemma cutBreak_cons (h : isBreak b = true) (m : List Char) : cutBreak (b :: m) = some (breakRead b, m) := by
  rcases cases_of_isBreak h with rfl | rfl | rfl | rfl <;> rfl

lemma isSpacing_of_isBreak (h : isBreak b = true) : isSpacing b = false := by
  rcases cases_of_isBreak h with rfl | rfl | rfl | rfl <;> rfl

lemma cutBreaks_of_none (hmark : atDocumentMark m = false) (h : cutBreak (m.dropWhile isSpacing) = none) :
    cutBreaks m = .ok ([], m.dropWhile isSpacing) := by
  rw [cutBreaks, hmark, if_neg Bool.false_ne_true]
  split
  · rfl
  · rename_i hsome
    rw [h] at hsome
    cases hsome

lemma cutBreaks_of_some (hmark : atDocumentMark m = false)
    (h : cutBreak (m.dropWhile isSpacing) = some (c, r)) : cutBreaks m = prepend [c] (cutBreaks r) := by
  rw [cutBreaks, hmark, if_neg Bool.false_ne_true]
  split
  · rename_i hnone
    rw [h] at hnone
    cases hnone
  · rename_i hsome
    rw [h] at hsome
    cases hsome
    cases cutBreaks r <;> rfl

/-- Line breaks are read, and the blanks behind them are dropped. -/
lemma cutBreaks_append {bs ws : List Char} (hbs : ∀ b ∈ bs, isBreak b = true)
    (hws : ∀ c ∈ ws, isSpacing c = true) (hm : IsFirm m) (hmark : atDocumentMark (ws ++ m) = false) :
    cutBreaks (bs ++ (ws ++ m)) = .ok (bs.map breakRead, m) := by
  induction bs with
  | nil =>
    have hdrop : (ws ++ m).dropWhile isSpacing = m := by
      rw [List.dropWhile_append_of_pos hws, hm.dropWhile]
    have hnone : cutBreak ((ws ++ m).dropWhile isSpacing) = none := by
      rw [hdrop, cutBreak_eq_none fun c hc => (hm c hc).2]
    rw [List.nil_append, cutBreaks_of_none hmark hnone, hdrop]
    rfl
  | cons b bs ih =>
    obtain ⟨hb, hbs⟩ := List.forall_mem_cons.1 hbs
    have hspace : ¬ isSpacing b = true := by rw [isSpacing_of_isBreak hb]; exact Bool.false_ne_true
    have hnone : atDocumentMark (b :: (bs ++ (ws ++ m))) = false := by
      refine atDocumentMark_of_ne ?_
      rintro c ⟨⟩
      rcases cases_of_isBreak hb with rfl | rfl | rfl | rfl <;> decide
    have hsome : cutBreak ((b :: (bs ++ (ws ++ m))).dropWhile isSpacing) =
        some (breakRead b, bs ++ (ws ++ m)) := by
      rw [List.dropWhile_cons_of_neg hspace, cutBreak_cons hb]
    rw [List.cons_append, cutBreaks_of_some hnone hsome, ih hbs]
    rfl

/-- A run of line breaks, with the blanks behind it, is read before the rest. -/
lemma cutQuoted_breaks {b : Char} {bs ws : List Char} (hb : isBreak b = true)
    (hbs : ∀ b ∈ bs, isBreak b = true) (hws : ∀ c ∈ ws, isSpacing c = true) (hm : IsFirm m)
    (hmark : atDocumentMark (ws ++ m) = false) :
    cutQuoted double (b :: (bs ++ (ws ++ m))) =
      prependChars (joinLines (breakRead b) (bs.map breakRead)) (cutQuoted double m) := by
  have hspace : ¬ isSpacing b = true := by rw [isSpacing_of_isBreak hb]; exact Bool.false_ne_true
  refine cutQuoted_gap (.inr (by rw [isLineEnd, hb, Bool.or_true])) ?_ (by simp; omega)
  simp only [cutGap, List.dropWhile_cons_of_neg hspace, cutBreak_cons hb,
    cutBreaks_append hbs hws hm hmark]
  rfl

/-! ### Escapes -/

/-- What stands between double quotes for a fold is not read. -/
lemma cutQuoted_fold {ws : List Char} (hws : ∀ c ∈ ws, isSpacing c = true) (hm : IsFirm m)
    (hmark : atDocumentMark (ws ++ m) = false) :
    cutQuoted true ('\\' :: '\n' :: (ws ++ m)) = cutQuoted true m := by
  have hcut : cutEscape ('\n' :: (ws ++ m)) = .ok ([], m) :=
    congrArg (Except.map _) (cutBreaks_append (List.forall_mem_nil _) hws hm hmark)
  rw [cutQuoted_slash hcut (by simp; omega)]
  cases cutQuoted true m <;> rfl

lemma cutQuoted_escapedSpace (m : List Char) :
    cutQuoted true ('\\' :: ' ' :: m) = prependChars [' '] (cutQuoted true m) :=
  cutQuoted_slash rfl (Nat.le_succ _)

lemma lookup_of_shortEscape? {l : Char} (h : shortEscape? c = some l) : escapes.lookup l = some c := by
  unfold shortEscape? at h
  split at h
  all_goals first | (cases h; rfl) | cases h

lemma toNat_lt (c : Char) : c.toNat < 0x110000 := by
  have hc : c.toNat < 0xd800 ∨ 0xdfff < c.toNat ∧ c.toNat < 0x110000 := c.valid
  omega

/-- The digits of a character after a letter that announces so many of them. -/
lemma cutEscape_hex {l : Char} {width : ℕ} (hl : escapes.lookup l = none)
    (hwidth : escapeWidths.lookup l = some width) (hc : c.toNat < 16 ^ width) (m : List Char) :
    cutEscape (l :: (capitalHex width c.toNat ++ m)) = .ok ([.char c], m) := by
  obtain ⟨ds, -, hds, hlength, hvalue⟩ := exists_digits_hex width c.toNat
  have hdigits : (capitalHex width c.toNat).length = width := by
    rw [capitalHex, List.length_map, length_hex]
  have hcode : letterOfCode (ofDigits 16 ds) = .ok (.char c) := by
    have hlimit := toNat_lt c
    rw [hvalue, Nat.mod_eq_of_lt hc, letterOfCode, if_neg (by simp [wordLimit]; omega), Letter.ofCode?_toNat]
  have htake : ((capitalHex width c.toNat ++ m).take width).mapM hexValue? = some ds := by
    rw [List.take_left' hdigits]
    exact hds
  rw [cutEscape]
  simp only [hl, hwidth, htake, hlength, if_pos, hcode, List.drop_left' hdigits]
  rfl

/-- An escape is read as the character that it stands for. -/
lemma cutQuoted_escape (c : Char) (m : List Char) :
    cutQuoted true (escape c ++ m) = prependChars [c] (cutQuoted true m) := by
  have hlt : c.toNat < 16 ^ 8 := Nat.lt_trans (toNat_lt c) (by decide)
  rw [escape]
  split
  · rename_i l hl
    have hcut : cutEscape (l :: m) = .ok ([.char c], m) := by
      simp only [cutEscape.eq_def, lookup_of_shortEscape? hl]
    exact cutQuoted_slash hcut (Nat.le_succ _)
  · simp only
    split_ifs with h₁ h₂
    · exact cutQuoted_slash (cutEscape_hex rfl rfl h₁ m) (by simp; omega)
    · exact cutQuoted_slash (cutEscape_hex rfl rfl h₂ m) (by simp; omega)
    · exact cutQuoted_slash (cutEscape_hex rfl rfl hlt m) (by simp; omega)

/-! ### Whole texts -/

lemma IsQuoted.prepend {double : Bool} {t : List Char} (h : IsQuoted double w s)
    (ht : ∀ r, cutQuoted double (t ++ (w ++ quoteMark double :: r)) =
      prependChars m (cutQuoted double (w ++ quoteMark double :: r))) :
    IsQuoted double (t ++ w) (m ++ s) := by
  intro r hr
  rw [List.append_assoc, ht, h r hr, List.map_append]
  rfl

lemma IsQuoted.nil (double : Bool) : IsQuoted double [] [] := fun _ hr => cutQuoted_quoteMark hr

lemma isSpacing_of_mem_replicate : ∀ c ∈ List.replicate n ' ', isSpacing c = true := by
  intro c hc
  rw [List.eq_of_mem_replicate hc]
  rfl

lemma atDocumentMark_replicate (hn : 0 < n) (m : List Char) :
    atDocumentMark (List.replicate n ' ' ++ m) = false := by
  obtain ⟨n, rfl⟩ := Nat.exists_eq_succ_of_ne_zero hn.ne'
  exact atDocumentMark_of_ne (by rintro c ⟨⟩; decide)

end ApiContract.Yaml
