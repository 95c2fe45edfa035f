import ApiContract.Proofs.Xml.RootTag

/-!
What scans leave. Every scan takes a part from the front of a text and leaves the rest of it as it is
(`*_suffix`). What it takes for a tag, a comment or an instruction ends with a `>` (`*_closed`).
-/

namespace ApiContract.Xml

variable {a : Alphabet} {start cs rest : List Char}

lemma dropSpace_suffix (cs : List Char) : dropSpace cs <:+ cs := List.dropWhile_suffix isSpace

/-- A text that is left after a `>` is left. -/
lemma suffix_of_closed (h : '>' :: rest <:+ cs) : rest <:+ cs := (List.suffix_cons _ _).trans h

/-! ### Names and references -/

lemma scanName_suffix {n : String} (h : scanName a cs = .ok (n, rest)) : rest <:+ cs :=
  ⟨_, (scanName_eq h).1.symm⟩

lemma scanDigits_suffix {base n : ℕ} {r : Reference} (h : scanDigits base n cs = .ok (r, rest)) :
    rest <:+ cs := by
  induction cs generalizing n with
  | nil => cases h
  | cons c cs ih =>
    simp only [scanDigits] at h
    split at h
    · exact (ih h).trans (List.suffix_cons c cs)
    · split at h
      · cases h
        exact List.suffix_cons c _
      · cases h

lemma scanNumber_suffix {base : ℕ} {r : Reference} (h : scanNumber base cs = .ok (r, rest)) :
    rest <:+ cs := by
  cases cs with
  | nil => cases h
  | cons c cs =>
    simp only [scanNumber] at h
    split at h
    · exact (scanDigits_suffix h).trans (List.suffix_cons c cs)
    · cases h

lemma scanReference_suffix {r : Reference} (h : scanReference a cs = .ok (r, rest)) :
    rest <:+ cs := by
  unfold scanReference at h
  split at h
  · exact (scanNumber_suffix h).trans (List.suffix_append ['#', 'x'] _)
  · exact (scanNumber_suffix h).trans (List.suffix_cons '#' _)
  · split at h
    · cases h
    · rename_i hn
      cases h
      exact (List.suffix_cons ';' _).trans (scanName_suffix hn)
    · cases h
    · cases h

/-! ### Lexemes -/

lemma scanStart_closed {l : Lexeme} (h : scanStart a cs = .ok (l, rest)) : '>' :: rest <:+ cs := by
  unfold scanStart at h
  split at h
  · cases h
  · rename_i hn
    split at h
    · cases h
    · rename_i has
      cases h
      obtain ⟨body, -, hbody⟩ := exists_tagBody_of_scanAttributes has
      rw [(scanRawName_eq hn).1, hbody]
      exact (List.suffix_append body _).trans (List.suffix_append _ _)

lemma scanStop_closed {l : Lexeme} (h : scanStop a cs = .ok (l, rest)) : '>' :: rest <:+ cs := by
  unfold scanStop at h
  split at h
  · cases h
  · rename_i c cs
    split at h
    · cases h
    · split at h
      · cases h
      · split at h
        · cases h
        · rename_i heq
          cases h
          rw [← heq]
          exact ((dropSpace_suffix _).trans (List.dropWhile_suffix _)).trans (List.suffix_cons c cs)
        · cases h

lemma scanCommentTail_closed {l : Lexeme} (h : scanCommentTail cs = .ok (l, rest)) :
    '>' :: rest <:+ cs := by
  fun_induction scanCommentTail cs with
  | case1 =>
    cases h
    exact List.suffix_append ['-', '-'] _
  | case4 c cs _ _ _ _ ih => exact (ih h).trans (List.suffix_cons c cs)
  | _ => cases h

lemma scanComment_closed {l : Lexeme} (h : scanComment cs = .ok (l, rest)) : '>' :: rest <:+ cs := by
  unfold scanComment at h
  split at h
  · cases h
  · exact (scanCommentTail_closed h).trans (List.suffix_cons '-' _)
  · cases h

lemma scanInstructionTail_closed {l : Lexeme} (h : scanInstructionTail cs = .ok (l, rest)) :
    '>' :: rest <:+ cs := by
  fun_induction scanInstructionTail cs with
  | case1 =>
    cases h
    exact List.suffix_cons '?' _
  | case2 c cs _ _ ih => exact (ih h).trans (List.suffix_cons c cs)
  | _ => cases h

lemma scanInstruction_closed {t : Target} (h : scanInstruction a cs = .ok (t, rest)) :
    '>' :: rest <:+ cs := by
  unfold scanInstruction at h
  split at h
  · cases h
  · cases h
  · rename_i n c r hn
    have hr : r <:+ cs := (List.suffix_cons c r).trans (scanName_suffix hn)
    split at h
    · cases h
    · split at h
      · cases h
      · split at h
        · split at h
          · cases h
          · cases h
            exact hr
          · cases h
        · split at h
          · cases h
          · rename_i ht
            cases h
            exact (scanInstructionTail_closed ht).trans hr

lemma scanSectionTail_suffix {v : List Char} (h : scanSectionTail cs = .ok (v, rest)) :
    rest <:+ cs := by
  fun_induction scanSectionTail cs generalizing v with
  | case1 =>
    cases h
    exact List.suffix_append [']', ']', '>'] _
  | case6 c cs _ _ _ _ _ ih =>
    cases hs : scanSectionTail cs with
    | error e => rw [hs] at h; cases h
    | ok p =>
      rw [hs] at h
      cases h
      exact (ih hs).trans (List.suffix_cons c cs)
  | _ => cases h

lemma scanWord_suffix {word : List Char} (h : scanWord a word cs = .ok ((), rest)) :
    rest <:+ cs := by
  unfold scanWord at h
  split at h
  · cases h
  · split at h
    · cases h
      exact List.drop_suffix _ cs
    · cases h

lemma scanSection_suffix {l : Lexeme} (h : scanSection a start cs = .ok (l, rest)) : rest <:+ cs := by
  unfold scanSection at h
  split at h
  · cases h
  · rename_i hw
    split at h
    · cases h
    · rename_i hs
      cases h
      exact (scanSectionTail_suffix hs).trans (scanWord_suffix (Scan.of_within hw))

lemma cutRun_suffix (cs : List Char) : (cutRun cs).2 <:+ cs := by
  induction cs with
  | nil => exact List.suffix_refl _
  | cons c cs ih =>
    unfold cutRun
    split
    · exact List.suffix_refl _
    · split
      · exact List.suffix_refl _
      · exact ih.trans (List.suffix_cons c cs)

lemma scanMarkup_suffix {l : Lexeme} (h : scanMarkup a start cs = .ok (l, rest)) : rest <:+ cs := by
  unfold scanMarkup at h
  split at h
  · cases h
  · exact (suffix_of_closed (scanStop_closed (Scan.of_within h))).trans (List.suffix_cons '/' _)
  · split at h
    · cases h
    · rename_i hi
      cases h
      exact (suffix_of_closed (scanInstruction_closed (Scan.of_within hi))).trans
        (List.suffix_cons '?' _)
    · cases h
  · cases h
  · exact (suffix_of_closed (scanComment_closed (Scan.of_within h))).trans
      (List.suffix_append ['!', '-'] _)
  · exact (scanSection_suffix h).trans (List.suffix_append ['!', '['] _)
  · cases h
  · exact suffix_of_closed (scanStart_closed (Scan.of_within h))

/-- **A lexeme is taken from the front of the text.** -/
theorem scanLexeme_suffix {l : Lexeme} (h : scanLexeme a cs = .ok (l, rest)) : rest <:+ cs := by
  unfold scanLexeme at h
  split at h
  · cases h
  · cases h
  · cases h
  · cases h
  · rename_i c cs _ _ _
    split at h
    · exact (scanMarkup_suffix h).trans (List.suffix_cons c cs)
    · split at h
      · cases hs : (scanReference a cs).within (c :: cs) with
        | error e => rw [hs] at h; cases h
        | ok p =>
          rw [hs] at h
          cases h
          exact (scanReference_suffix (Scan.of_within hs)).trans (List.suffix_cons c cs)
      · split at h
        · cases h
        · split at h
          · cases h
          · cases h
            exact (cutRun_suffix cs).trans (List.suffix_cons c cs)

/-- A tag that ends an element ends with a `>`. -/
lemma scanLexeme_closed_of_stop {n : String} (h : scanLexeme a cs = .ok (.stop n, rest)) :
    '>' :: rest <:+ cs := by
  rcases scanLexeme_cases h with ⟨r, rfl, hs⟩ | ⟨hl, -⟩ | ⟨_, r, -, rfl, hs⟩ | ⟨_, hl⟩ | ⟨_, hl⟩
  · exact (scanStart_closed hs).trans (List.suffix_cons '<' r)
  · cases hl
  · exact (scanStop_closed hs).trans (List.suffix_append ['<', '/'] r)
  · cases hl
  · cases hl

/-! ### Tokens of a prolog -/

namespace Doctype

lemma scanQuoted_suffix {quote : Char} {v : List Char} (h : scanQuoted quote cs = .ok (v, rest)) :
    rest <:+ cs := by
  induction cs generalizing v with
  | nil => cases h
  | cons c cs ih =>
    unfold scanQuoted at h
    split at h
    · cases h
      exact List.suffix_cons c _
    · split at h
      · cases h
      · split at h
        · cases h
        · rename_i hv
          cases h
          exact (ih hv).trans (List.suffix_cons c cs)

lemma scanLiteral_suffix {quote : Char} {t : Token} (h : scanLiteral quote cs = .ok (t, rest)) :
    rest <:+ cs := by
  unfold scanLiteral at h
  split at h
  · cases h
  · cases h
    exact List.nil_suffix
  · rename_i hq
    split at h
    · cases h
      exact scanQuoted_suffix hq
    · cases h

lemma scanPercent_suffix {t : Token} (h : scanPercent a cs = .ok (t, rest)) : rest <:+ cs := by
  unfold scanPercent at h
  split at h
  · cases h
  · split at h
    · cases h
      exact List.suffix_refl _
    · split at h
      · cases h
      · cases h
      · rename_i hn
        cases h
        exact (List.suffix_cons ';' _).trans (scanName_suffix hn)
      · cases h

lemma scanHash_suffix {t : Token} (h : scanHash a cs = .ok (t, rest)) : rest <:+ cs := by
  unfold scanHash at h
  split at h
  · cases h
  · cases h
    exact List.nil_suffix
  · rename_i hn
    split at h
    · cases h
      exact scanName_suffix hn
    · cases h

lemma scanKeyword_cases {t : Token} (h : scanKeyword a cs = .ok (t, rest)) :
    rest <:+ cs ∧ ∃ word, t = .declaration word := by
  have hd : cs.dropWhile a.isKeywordChar <:+ cs := List.dropWhile_suffix _
  unfold scanKeyword at h
  simp only at h
  split at h
  · split at h <;> cases h
  · split at h
    · cases h
    · cases h
    · split at h
      · cases h
      · cases h
        exact ⟨hd, _, rfl⟩
    · split at h
      · cases h
        exact ⟨hd, _, rfl⟩
      · cases h

/-- **What a `<` begins**: a comment or an instruction, which ends with a `>`, a section or a declaration
of a document type, or an element. -/
lemma scanAngle_cases {t : Token} (h : scanAngle a cs = .ok (t, rest)) :
    (t = .aside ∨ t = .misplaced) ∧ '>' :: rest <:+ cs ∨
    (t = .openSection ∨ ∃ word, t = .declaration word) ∧ rest <:+ cs ∨
    t = .element ∧ ∃ c, cs = c :: rest ∧ a.beginsElement c = true ∧ c ≠ '!' ∧ c ≠ '?' := by
  unfold scanAngle at h
  split at h
  · cases h
  · rename_i cs
    cases hs : scanComment cs with
    | error e => rw [hs] at h; cases h
    | ok p =>
      rw [hs] at h
      cases h
      exact .inl ⟨.inl rfl, (scanComment_closed hs).trans (List.suffix_append ['!', '-'] _)⟩
  · cases h
    exact .inr (.inl ⟨.inl rfl, List.suffix_append ['!', '['] _⟩)
  · obtain ⟨hr, hword⟩ := scanKeyword_cases h
    exact .inr (.inl ⟨.inr hword, hr.trans (List.suffix_cons '!' _)⟩)
  · rename_i cs
    cases hs : scanInstruction a cs with
    | error e => rw [hs] at h; cases h
    | ok p =>
      rw [hs] at h
      obtain ⟨ht, rfl⟩ := Prod.mk.inj (Except.ok.inj h)
      refine .inl ⟨?_, (scanInstruction_closed hs).trans (List.suffix_cons '?' _)⟩
      rw [← ht]
      split
      · exact .inl rfl
      · exact .inr rfl
  · rename_i c cs _ _ hexclaim hquestion
    split at h
    · rename_i hc
      cases h
      exact .inr (.inr ⟨rfl, c, rfl, hc, hexclaim, hquestion⟩)
    · cases h

lemma scanAngle_suffix {t : Token} (h : scanAngle a cs = .ok (t, rest)) : rest <:+ cs := by
  rcases scanAngle_cases h with ⟨-, hr⟩ | ⟨-, hr⟩ | ⟨-, c, rfl, -⟩
  · exact suffix_of_closed hr
  · exact hr
  · exact List.suffix_cons c rest

lemma scanCloseParen_suffix {t : Token} (h : scanCloseParen cs = .ok (t, rest)) : rest <:+ cs := by
  unfold scanCloseParen at h
  split at h
  · cases h
    exact List.suffix_refl _
  · split at h
    · cases h
      exact List.suffix_cons _ _
    · split at h
      · cases h
        exact List.suffix_refl _
      · cases h

lemma scanCloseBracket_suffix {t : Token} (h : scanCloseBracket cs = .ok (t, rest)) : rest <:+ cs := by
  unfold scanCloseBracket at h
  split at h
  · cases h
  · cases h
    exact List.suffix_append [']', '>'] _
  · cases h
    exact List.suffix_refl _

lemma scanRun_suffix {c : Char} {t : Token} (hc : isTokenChar a c)
    (h : scanRun a (c :: cs) = .ok (t, rest)) : rest <:+ cs := by
  have hd : cs.dropWhile (isTokenChar a) <:+ cs := List.dropWhile_suffix _
  unfold scanRun at h
  simp only [List.dropWhile_cons_of_pos hc] at h
  split at h
  · cases h
  · cases h
    exact List.nil_suffix
  · rename_i hr
    rw [hr] at hd
    split at h
    · cases h
    · split at h
      · cases h
        exact hd
      · split at h
        · split at h
          · cases h
            exact (List.suffix_cons _ _).trans hd
          · cases h
        · cases h

/-- **A token is taken from the front of the text.** -/
theorem scanToken_suffix {t : Token} (h : scanToken a cs = .ok (t, rest)) : rest <:+ cs := by
  unfold scanToken at h
  split at h
  · cases h
  · rename_i c cs
    suffices rest <:+ cs from this.trans (List.suffix_cons c cs)
    split at h
    · cases h
      exact dropSpace_suffix cs
    · split at h
      · exact scanLiteral_suffix h
      · exact scanLiteral_suffix h
      · exact scanAngle_suffix h
      · exact scanPercent_suffix h
      · exact scanHash_suffix h
      · cases h; exact List.suffix_refl _
      · exact scanCloseParen_suffix h
      · cases h; exact List.suffix_refl _
      · exact scanCloseBracket_suffix h
      · cases h; exact List.suffix_refl _
      · cases h; exact List.suffix_refl _
      · cases h; exact List.suffix_refl _
      · split at h
        · exact scanRun_suffix ‹_› h
        · cases h

/-- **A document type is taken from the front of the text.** -/
theorem read_suffix {d d' : Declarations} {stage : Stage} (h : read a d stage cs = .ok (d', rest)) :
    rest <:+ cs := by
  fun_induction read a d stage cs with
  | case3 d stage cs _ r hs ih => exact (ih h).trans (scanToken_suffix hs)
  | case5 =>
    cases h
    exact scanToken_suffix ‹scanToken _ _ = _›
  | case7 =>
    rename_i ih
    exact (ih h).trans (scanToken_suffix ‹scanToken _ _ = _›)
  | _ => cases h

end Doctype

end ApiContract.Xml
