import ApiContract.Proofs.Xml.Suffix

/-!
How documents begin and end. What stands around the root are blanks, comments, instructions and a document
type, so a document that is read begins with a blank or a `<` and ends with a blank or a `>`
(`ends_of_readDocument`).
-/

namespace ApiContract.Xml

variable {a : Alphabet} {d d' : Declarations} {start cs w rest place : List Char} {s : Source}

/-- The text begins as a document does, if it is not empty: with a `<` or a blank. -/
def BeginsWell (cs : List Char) : Prop := ∀ c ∈ cs.head?, c = '<' ∨ isSpace c = true

/-- The text ends as a document does, if it is not empty: with a `>` or a blank. -/
def EndsWell (cs : List Char) : Prop := ∀ c ∈ cs.getLast?, c = '>' ∨ isSpace c = true

lemma EndsWell.of_suffix (h : rest <:+ cs) (hne : rest ≠ []) (he : EndsWell rest) : EndsWell cs := by
  obtain ⟨w, rfl⟩ := h
  intro c hc
  rw [List.getLast?_append_of_ne_nil w hne] at hc
  exact he c hc

lemma EndsWell.cons {c : Char} (hc : c = '>' ∨ isSpace c = true) (he : EndsWell cs) :
    EndsWell (c :: cs) := by
  cases cs with
  | nil =>
    rintro _ ⟨⟩
    exact hc
  | cons c' cs => exact he.of_suffix (List.suffix_cons c _) (List.cons_ne_nil c' cs)

lemma EndsWell.of_closed (h : '>' :: rest <:+ cs) (he : EndsWell rest) : EndsWell cs :=
  (he.cons (.inl rfl)).of_suffix h (List.cons_ne_nil _ _)

lemma EndsWell.of_dropSpace (he : EndsWell (dropSpace cs)) : EndsWell cs := by
  induction cs with
  | nil => exact he
  | cons c cs ih =>
    by_cases hc : isSpace c = true
    · rw [dropSpace, List.dropWhile_cons_of_pos hc] at he
      exact (ih he).cons (.inr hc)
    · rwa [dropSpace, List.dropWhile_cons_of_neg hc] at he

/-! ### Tokens around the root -/

namespace Doctype

/-- A token that stands inside of a document type only. -/
def Token.isInner : Token → Bool
  | .space | .aside | .element | .declaration _ => false
  | _ => true

lemma isInner_of_runKind {run : List Char} {t : Token} (h : runKind a run rest = .ok t) :
    t.isInner = true := by
  unfold runKind at h
  repeat' split at h
  all_goals cases h
  all_goals rfl

lemma isInner_of_scanRun {t : Token} (h : scanRun a cs = .ok (t, rest)) : t.isInner = true := by
  unfold scanRun at h
  simp only at h
  split at h
  · cases h
  · rename_i hk _
    cases h
    exact isInner_of_runKind hk
  · rename_i hk _
    repeat' split at h
    all_goals cases h
    · exact isInner_of_runKind hk
    · rfl

lemma isInner_of_scanLiteral {quote : Char} {t : Token} (h : scanLiteral quote cs = .ok (t, rest)) :
    t.isInner = true := by
  unfold scanLiteral at h
  repeat' split at h
  all_goals cases h
  all_goals rfl

lemma isInner_of_scanPercent {t : Token} (h : scanPercent a cs = .ok (t, rest)) :
    t.isInner = true := by
  unfold scanPercent at h
  repeat' split at h
  all_goals cases h
  all_goals rfl

lemma isInner_of_scanHash {t : Token} (h : scanHash a cs = .ok (t, rest)) : t.isInner = true := by
  unfold scanHash at h
  repeat' split at h
  all_goals cases h
  all_goals rfl

lemma isInner_of_scanCloseParen {t : Token} (h : scanCloseParen cs = .ok (t, rest)) :
    t.isInner = true := by
  unfold scanCloseParen at h
  repeat' split at h
  all_goals cases h
  all_goals rfl

lemma isInner_of_scanCloseBracket {t : Token} (h : scanCloseBracket cs = .ok (t, rest)) :
    t.isInner = true := by
  unfold scanCloseBracket at h
  split at h <;> cases h <;> rfl

/-- **What a token is, by its beginning**: blanks, what a `<` begins, or a part of a document type. -/
lemma scanToken_cases {t : Token} (h : scanToken a cs = .ok (t, rest)) :
    (∃ c r, cs = c :: r ∧ isSpace c = true ∧ t = .space ∧ rest = dropSpace r) ∨
    (∃ r, cs = '<' :: r ∧ scanAngle a r = .ok (t, rest)) ∨ t.isInner = true := by
  unfold scanToken at h
  split at h
  · cases h
  · rename_i c cs
    split at h
    · rename_i hc
      cases h
      exact .inl ⟨c, cs, rfl, hc, rfl, rfl⟩
    · refine .inr ?_
      split at h
      · exact .inr (isInner_of_scanLiteral h)
      · exact .inr (isInner_of_scanLiteral h)
      · exact .inl ⟨cs, rfl, h⟩
      · exact .inr (isInner_of_scanPercent h)
      · exact .inr (isInner_of_scanHash h)
      · cases h; exact .inr rfl
      · exact .inr (isInner_of_scanCloseParen h)
      · cases h; exact .inr rfl
      · exact .inr (isInner_of_scanCloseBracket h)
      · cases h; exact .inr rfl
      · cases h; exact .inr rfl
      · cases h; exact .inr rfl
      · split at h
        · exact .inr (isInner_of_scanRun h)
        · cases h

/-- A token that may stand around the root begins with a blank or a `<`. -/
lemma beginsWell_of_scanToken {t : Token} (h : scanToken a cs = .ok (t, rest))
    (ht : t.isInner = false) : BeginsWell cs := by
  rcases scanToken_cases h with ⟨c, r, rfl, hc, -, -⟩ | ⟨r, rfl, -⟩ | hinner
  · rintro _ ⟨⟩; exact .inr hc
  · rintro _ ⟨⟩; exact .inl rfl
  · rw [ht] at hinner; cases hinner

end Doctype

open Doctype

/-- A root begins with its start tag. -/
lemma scanLexeme_of_element (h : scanToken a cs = .ok (.element, rest)) :
    ∃ r, cs = '<' :: r ∧ scanLexeme a cs = (scanStart a r).within cs := by
  rcases scanToken_cases h with ⟨_, _, -, -, hl, -⟩ | ⟨r, rfl, hr⟩ | hl
  · cases hl
  · obtain ⟨hl | hl, -⟩ | ⟨hl | ⟨_, hl⟩, -⟩ | ⟨-, c, rfl, hc, hexclaim, hquestion⟩ := scanAngle_cases hr
    · cases hl
    · cases hl
    · cases hl
    · cases hl
    · -- what begins an element is none of the marks that begin other lexemes
      have hslash : c ≠ '/' := by
        rintro rfl
        have : a.beginsElement '/' = false := by cases a <;> decide
        rw [this] at hc
        cases hc
      refine ⟨_, rfl, ?_⟩
      change scanMarkup a ('<' :: c :: rest) (c :: rest) = _
      unfold scanMarkup
      split
      · rename_i heq; cases heq
      · rename_i heq; cases heq; exact absurd rfl hslash
      · rename_i heq; cases heq; exact absurd rfl hquestion
      · rename_i heq; cases heq; exact absurd rfl hexclaim
      · rename_i heq; cases heq; exact absurd rfl hexclaim
      · rename_i heq; cases heq; exact absurd rfl hexclaim
      · rename_i heq; cases heq; exact absurd rfl hexclaim
      · rfl
  · cases hl

/-! ### What stands around the root -/

lemma ends_of_readProlog {typed : Bool} (h : readProlog a d typed cs = .ok (d', place)) :
    BeginsWell cs ∧ place <:+ cs := by
  fun_induction readProlog a d typed cs with
  | case1 => cases h
  | case2 => cases h
  | case3 d typed cs _ r ht ih =>
    exact ⟨beginsWell_of_scanToken ht rfl, (ih h).2.trans (scanToken_suffix ht)⟩
  | case4 d typed cs _ r ht ih =>
    exact ⟨beginsWell_of_scanToken ht rfl, (ih h).2.trans (scanToken_suffix ht)⟩
  | case5 d typed cs _ r ht =>
    cases h
    exact ⟨beginsWell_of_scanToken ht rfl, List.suffix_refl _⟩
  | case6 => cases h
  | case7 =>
    rename_i t r _ _ _ ht hdoctype d₁ r₁ hread ih
    have hinner : t.isInner = false := by
      cases t <;> first | rfl | cases hdoctype.1
    exact ⟨beginsWell_of_scanToken ht hinner,
      ((ih h).2.trans (read_suffix hread)).trans (scanToken_suffix ht)⟩
  | case8 => cases h

lemma endsWell_of_readEpilog (h : readEpilog a cs = .ok ()) : EndsWell cs := by
  fun_induction readEpilog a cs with
  | case1 cs hempty =>
    rw [List.isEmpty_iff.1 hempty]
    exact nofun
  | case2 => cases h
  | case3 cs _ r ht ih =>
    rcases scanToken_cases ht with ⟨c, r', rfl, hc, -, rfl⟩ | ⟨r', rfl, hr⟩ | ht
    · exact (ih h).of_dropSpace.cons (.inr hc)
    · obtain ⟨hl | hl, -⟩ | ⟨hl | ⟨_, hl⟩, -⟩ | ⟨hl, -⟩ := scanAngle_cases hr <;> cases hl
    · cases ht
  | case4 cs _ r ht ih =>
    rcases scanToken_cases ht with ⟨_, _, -, -, hl, -⟩ | ⟨r', rfl, hr⟩ | hl
    · cases hl
    · obtain ⟨-, hclosed⟩ | ⟨hl | ⟨_, hl⟩, -⟩ | ⟨hl, -⟩ := scanAngle_cases hr
      · exact (ih h).of_closed (hclosed.trans (List.suffix_cons '<' r'))
      all_goals cases hl
    · cases hl
  | case5 => cases h

/-! ### The root -/

/-- A root that is open is completed by a tag that ends it. -/
lemma exists_stop_of_complete {f : Frame} {fs : Frames} {l : Lexeme} {root : Node}
    (h : fs.RestsOn f) (hs : fs.step a d start l = .ok (.complete root)) : ∃ n, l = .stop n := by
  obtain ⟨g, gs, rfl⟩ : ∃ g gs, fs = g :: gs := by cases h <;> exact ⟨_, _, rfl⟩
  cases l with
  | start n as closed =>
    obtain ⟨g', -, hs⟩ := bind_eq_ok_iff.1 hs
    cases closed <;> cases hs
  | stop n => exact ⟨n, rfl⟩
  | text cs => cases hs
  | reference r =>
    obtain ⟨c, -, hs⟩ := map_eq_ok_iff.1 hs
    cases hs
  | aside => cases hs

lemma closed_of_readContent {f : Frame} {fs : Frames} {root : Node} (h : fs.RestsOn f)
    (hr : readContent a d fs cs = .ok (root, rest)) : '>' :: rest <:+ cs := by
  fun_induction readContent a d fs cs with
  | case1 => cases hr
  | case2 => cases hr
  | case3 fs cs l r hl root' hs =>
    cases hr
    obtain ⟨n, rfl⟩ := exists_stop_of_complete h hs
    exact scanLexeme_closed_of_stop hl
  | case4 fs cs l r hl fs' hs ih => exact (ih (h.step hs) hr).trans (scanLexeme_suffix hl)

/-- A root ends with a `>`. -/
lemma closed_of_root {root : Node} {r : List Char} (h : scanToken a cs = .ok (.element, r))
    (hr : readContent a d [] cs = .ok (root, rest)) : '>' :: rest <:+ cs := by
  obtain ⟨r', rfl, hl⟩ := scanLexeme_of_element h
  rw [readContent] at hr
  split at hr
  · cases hr
  · rename_i l after heq
    have hstart := Scan.of_within (hl.symm.trans heq)
    have hclosed := (scanStart_closed hstart).trans (List.suffix_cons '<' r')
    obtain ⟨n, as, closed, rfl⟩ : ∃ n as closed, l = .start n as closed := by
      unfold scanStart at hstart
      repeat' split at hstart
      all_goals cases hstart
      exact ⟨_, _, _, rfl⟩
    rw [Frames.step_start] at hr
    cases ho : openElement a d .initial ('<' :: r') n as with
    | error e =>
      rw [Frames.scope, ho] at hr
      cases hr
    | ok f =>
      rw [Frames.scope, ho] at hr
      cases closed with
      | true => cases hr; exact hclosed
      | false =>
        have hf : Frames.RestsOn f [f] := .base rfl rfl
        exact (closed_of_readContent hf hr).trans (suffix_of_closed hclosed)

/-- **A document that is read begins with a blank or a `<`, and ends with a blank or a `>`.** -/
theorem ends_of_readDocument {root : Node} (h : readDocument s = .ok root) :
    s.rest ≠ [] ∧ BeginsWell s.rest ∧ EndsWell s.rest ∧ s.isOdd = false := by
  unfold readDocument at h
  obtain ⟨⟨d, place⟩, hp, h⟩ := bind_eq_ok_iff.1 h
  obtain ⟨⟨root', rest⟩, hc, h⟩ := bind_eq_ok_iff.1 h
  obtain ⟨⟨⟩, he, h⟩ := bind_eq_ok_iff.1 h
  obtain ⟨hbegins, hplace⟩ := ends_of_readProlog hp
  obtain ⟨_, hmark⟩ := exists_element_of_readProlog hp
  have hclosed := (closed_of_root hmark hc).trans hplace
  refine ⟨?_, hbegins, .of_closed hclosed (endsWell_of_readEpilog he), ?_⟩
  · intro hnil
    rw [hnil] at hclosed
    cases List.suffix_nil.1 hclosed
  · split at h
    · cases h
    · rename_i hodd
      exact Bool.eq_false_iff.2 hodd

end ApiContract.Xml
