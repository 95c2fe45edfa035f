import ApiContract.Proofs.Yaml.DoubleQuoted
import ApiContract.Proofs.Yaml.Scanning
import ApiContract.Proofs.Yaml.SingleQuoted
import ApiContract.Yaml.Writer

/-!
Texts as scalars, in the style that is chosen for them. Each of them is read as some text. `keepsText` tells
when that is the text itself: in single quotes if the next-line character is not in it, and in double quotes
if no space is behind an escape far to the right; a key between double quotes must be short enough for its
escapes.
-/

namespace ApiContract.Yaml

variable {c : Char} {cs m w ws : List Char} {fold : Bool} {n : ℕ} {p : Pen} {s : String}

/-- The token is a scalar that stands for a text. -/
inductive IsText (s : String) : Token → Prop where
  | plain (h : Kind.ofScalar s = .text) : IsText s (.scalar s true)
  | quoted : IsText s (.scalar s false)

/-- Whether a text is read back: as a key on one line with its value, or else where further lines have an
indent. -/
def keepsText (inKey : Bool) (n : ℕ) (s : String) : Bool :=
  match Style.ofText inKey s with
  | .plain => true
  | .single => !s.toList.contains nextLine
  | .double =>
    if inKey then 2 + (s.toList.flatMap encode).length ≤ Scanner.keyReach else !isLossy n true true s.toList

/-- What sets a scalar apart from what comes before it. -/
def Pen.gap (p : Pen) : List Char := if p.apart then [] else [' ']

lemma Pen.mark_written (p : Pen) (cs : List Char) (needsGap apart fresh : Bool) (h : needsGap = true) :
    (p.mark cs needsGap apart fresh).written = cs.reverse ++ (p.gap ++ p.written) := by
  subst h
  rw [mark, gap]
  cases p.apart <;> simp

/-! ### Without quotes -/

lemma withoutLastFeed_of_not_mem (h : '\n' ∉ s.toList) : withoutLastFeed s = s := by
  unfold withoutLastFeed
  split
  · rename_i heq
    refine absurd (List.mem_reverse.1 ?_) h
    rw [heq]
    exact List.mem_cons_self
  · rfl

lemma not_mem_of_allowsPlain (h : allowsPlain cs = true) (hc : isBreak c = true) : c ∉ cs := by
  simp only [allowsPlain, isMultiline, Bool.and_eq_true, Bool.not_eq_true', List.any_eq_false] at h
  exact fun hmem => h.1.1.1.2 c hmem hc

lemma isVisible_of_allowsPlain (h : allowsPlain cs = true) (hc : c ∈ cs) : isVisible c = true := by
  simp only [allowsPlain, Bool.and_eq_true, List.all_eq_true] at h
  exact h.1.1.1.1.2 c hc

lemma hasMarks_of_allowsPlain (h : allowsPlain cs = true) : cs.isEmpty = false ∧ hasMarks cs = false := by
  simp only [allowsPlain, Bool.and_eq_true, Bool.not_eq_true'] at h
  exact ⟨h.1.1.1.1.1, h.2⟩

lemma not_isGapChar (h : isGapChar c = false) : isSpacing c = false ∧ isLineEnd c = false := by
  simp only [isGapChar, isSpacing, isLineEnd, Bool.or_eq_false_iff] at h ⊢
  tauto

/-- A word of more than one character. -/
lemma exists_runs_word {d : Char} (hc : isGapChar c = false) (hd : isGapChar d = false)
    (hvisible : ∀ c ∈ d :: cs, isVisible c = true) (hline : ∀ c ∈ d :: cs, isBreak c = false) :
    ∃ ds rs, runs (c :: d :: cs) = .word (c :: d :: ds) :: rs := by
  have hword {e : Char} (he : isGapChar e = false) : (e != ' ' && !isBreak e) = true := by
    simp only [isGapChar, Bool.or_eq_false_iff] at he
    simp [he.2, he.1.1.1.2, bne]
  obtain ⟨r, rs, hruns, hfits⟩ := exists_runs_cons d cs
  have hproper := (isTidy_runs_line hvisible hline).1 r (by rw [hruns]; exact List.mem_cons_self)
  have htext := text_runs (d :: cs)
  rw [hruns, List.flatMap_cons] at htext
  cases r with
  | spaces k =>
    have heq : d = ' ' := eq_of_beq hfits
    rw [heq] at hd
    cases hd
  | breaks ds =>
    rw [Run.fits] at hfits
    rw [hline d List.mem_cons_self] at hfits
    cases hfits
  | word ds =>
    obtain ⟨e, ds, rfl⟩ := List.exists_cons_of_ne_nil hproper.1
    obtain ⟨rfl, -⟩ := List.cons.inj htext
    refine ⟨ds, rs, ?_⟩
    rw [runs_cons, hruns]
    exact if_pos (hword hc)

/-- The first word of a text decides how it begins. -/
lemma beginsPlain_of_allowsPlain (h : allowsPlain cs = true)
    (hw : ∀ ws, (runs cs).head? = some (.word ws) → ws <+: w) : BeginsPlain w := by
  obtain ⟨htidy, -, hhead, -, hne⟩ := runs_of_allowsPlain h
  obtain ⟨r, rs, hruns⟩ := List.exists_cons_of_ne_nil hne
  have hword : r.isWord = true := hhead r (by rw [hruns]; rfl)
  have hproper := htidy.1 r (by rw [hruns]; exact List.mem_cons_self)
  have htext := text_runs cs
  rw [hruns, List.flatMap_cons] at htext
  have hvisible := fun c (hc : c ∈ cs) => isVisible_of_allowsPlain h hc
  have hline : ∀ c ∈ cs, isBreak c = false := fun c hc =>
    Bool.eq_false_iff.2 fun hb => not_mem_of_allowsPlain h hb hc
  have hmarks := (hasMarks_of_allowsPlain h).2
  cases r with
  | spaces k => cases hword
  | breaks ds => cases hword
  | word ws =>
    obtain ⟨c, ws, rfl⟩ := List.exists_cons_of_ne_nil hproper.1
    obtain ⟨t, rfl⟩ := hw _ (by rw [hruns]; rfl)
    have hfirm := hproper.2 c List.mem_cons_self
    have hcs : cs = c :: (ws ++ rs.flatMap Run.text) := htext.symm
    rw [hcs] at hmarks hvisible hline hruns
    simp only [hasMarks, startsWithMark, Bool.or_eq_false_iff] at hmarks
    obtain ⟨⟨-, hspecial, hsign⟩, -⟩ := hmarks
    refine ⟨c, ws ++ t, rfl, hfirm.1, hfirm.2, ?_, hspecial, fun hc => ?_⟩
    · rintro rfl
      have := hvisible byteOrderMark List.mem_cons_self
      cases this
    · -- a sign must be followed by a character of the same word
      have hnext : gapNext (ws ++ rs.flatMap Run.text) = false := by
        rcases hc with rfl | rfl | rfl <;> simpa using hsign
      have hgap : isGapChar c = false := by rcases hc with rfl | rfl | rfl <;> rfl
      generalize htail : ws ++ rs.flatMap Run.text = tail at *
      cases tail with
      | nil => cases hnext
      | cons d ds =>
        obtain ⟨es, rs', hword⟩ := exists_runs_word hgap hnext (List.forall_mem_cons.1 hvisible).2
          (List.forall_mem_cons.1 hline).2
        rw [hword] at hruns
        obtain ⟨heq, -⟩ := List.cons.inj hruns
        cases heq
        exact ⟨d, es ++ t, rfl, not_isGapChar hnext⟩

/-- **A text without marks is written as a plain scalar.** -/
lemma exists_writePlain (hn : 0 < n) (h : allowsPlain cs = true) (fold : Bool) (p : Pen) :
    (writePlain n fold cs p).fresh = false ∧
      ∃ w, (writePlain n fold cs p).written = w.reverse ++ (p.gap ++ p.written) ∧
      IsPlainText n w cs ∧ BeginsPlain w := by
  obtain ⟨htidy, hplain, hhead, hlast, hne⟩ := runs_of_allowsPlain h
  have hcs := (hasMarks_of_allowsPlain h).1
  obtain ⟨hfresh, w, hw, hprefix, hread⟩ := writesPlain fold hn (runs cs)
    (if p.apart then p else p.put [' ']).settle htidy hplain hhead hlast hne rfl
  rw [text_runs] at hread
  rw [writePlain, hcs]
  refine ⟨hfresh, w, hw.trans ?_, hread, beginsPlain_of_allowsPlain h hprefix⟩
  rw [Pen.gap]
  cases p.apart <;> rfl

/-! ### In quotes -/

lemma mark_close (double : Bool) {q : Pen} {t : List Char}
    (hq : q.written = w.reverse ++ (quoteMark double :: t)) :
    (q.mark [quoteMark double] false false false).written =
      (quoteMark double :: (w ++ [quoteMark double])).reverse ++ t := by
  rw [Pen.mark]
  simp [hq]

lemma mark_open_written (double : Bool) (p : Pen) :
    (p.mark [quoteMark double] true false false).written = quoteMark double :: (p.gap ++ p.written) :=
  Pen.mark_written _ _ _ _ _ rfl

lemma mark_open_fresh (double : Bool) (p : Pen) :
    (p.mark [quoteMark double] true false false).fresh = false := by
  simp [Pen.mark]

lemma isTidy_runs_of_allowsSingle (h : allowsSingle cs = true) : IsTidy (runs cs) := by
  simp only [allowsSingle, Bool.and_eq_true, Bool.not_eq_true', List.all_eq_true] at h
  exact isTidy_runs h.1.1 h.1.2 h.2

lemma exists_writeSingle (fold : Bool) (hn : 0 < n) (h : allowsSingle cs = true) (p : Pen) :
    (writeSingle n fold cs p).fresh = false ∧ ∃ w t, (writeSingle n fold cs p).written =
        (quoteMark false :: (w ++ [quoteMark false])).reverse ++ (p.gap ++ p.written) ∧
      IsQuoted false w t ∧ (t = cs ↔ nextLine ∉ cs) := by
  have htidy := isTidy_runs_of_allowsSingle h
  have hfresh := mark_open_fresh false p
  obtain ⟨w, hw, hread, -⟩ := writesSingle fold true hn htidy
    ⟨.inl hfresh, fun _ _ _ => .inl rfl⟩
  refine ⟨by simp [writeSingle, Pen.mark], w, (runs cs).flatMap Run.read, ?_, hread, ?_⟩
  · exact mark_close false (hw.trans (by rw [mark_open_written]))
  · have hiff := read_runs_iff htidy.1
    rwa [text_runs] at hiff

lemma mark_open_column (double : Bool) (p : Pen) :
    p.column + 1 ≤ (p.mark [quoteMark double] true false false).column := by
  cases hp : p.apart <;> simp [Pen.mark, hp]

lemma exists_writeDouble (fold : Bool) (hn : 0 < n) (hp : n ≤ p.column + 1) (cs : List Char) :
    (writeDouble n fold cs p).fresh = false ∧ ∃ w t, (writeDouble n fold cs p).written =
        (quoteMark true :: (w ++ [quoteMark true])).reverse ++ (p.gap ++ p.written) ∧
      IsQuoted true w t ∧ (t = cs ↔ isLossy n fold true cs = false) := by
  obtain ⟨-, w, hw, -, -, t, hread, ht⟩ := writesDouble hn fold true [] cs _ (mark_open_fresh true p)
    (Nat.le_trans hp (mark_open_column true p))
  refine ⟨by simp [writeDouble, Pen.mark], w, t, ?_, hread, ht⟩
  exact mark_close true (hw.trans (by rw [mark_open_written]; rfl))

/-! ### In the style of the text -/

lemma style_cases (inKey : Bool) (s : String) :
    Style.ofText inKey s = .plain ∧ Kind.ofScalar s = .text ∧ allowsPlain s.toList = true ∨
      Style.ofText inKey s = .single ∧ allowsSingle s.toList = true ∧
        (inKey = true → ∀ c ∈ s.toList, isBreak c = false) ∨
      Style.ofText inKey s = .double := by
  rw [Style.ofText]
  split_ifs with hplain hsingle
  · have hfeed := not_mem_of_allowsPlain hplain.2.1 (c := '\n') rfl
    exact .inl ⟨rfl, by rw [Kind.ofScalar, withoutLastFeed_of_not_mem hfeed, hplain.1], hplain.2.1⟩
  · refine .inr (.inl ⟨rfl, hsingle.1, fun hkey c hc => ?_⟩)
    have hline := hsingle.2
    simp only [hkey, Bool.true_and, isMultiline, List.any_eq_true, not_exists, not_and,
      Bool.not_eq_true] at hline
    exact hline c hc
  · exact .inr (.inr rfl)

/-- **A text is written as a scalar that is read as some text, and as itself just if it is kept.** -/
theorem exists_writeText (hn : 0 < n) (hp : n ≤ p.column + 1) (s : String) :
    (writeStyled (Style.ofText false s) n true s.toList p).fresh = false ∧ ∃ w s' token,
      (writeStyled (Style.ofText false s) n true s.toList p).written = w.reverse ++ (p.gap ++ p.written) ∧
      ScalarText n w token ∧ IsText s' token ∧ (s' = s ↔ keepsText false n s = true) := by
  have hofList {t : List Char} : String.ofList t = s ↔ t = s.toList :=
    ⟨fun h => by rw [← h, String.toList_ofList], fun h => by rw [h, String.ofList_toList]⟩
  obtain ⟨hstyle, hkind, hplain⟩ | ⟨hstyle, hsingle, -⟩ | hstyle := style_cases false s
  · obtain ⟨hfresh, w, hw, hread, hbegin⟩ := exists_writePlain hn hplain true p
    rw [keepsText, hstyle]
    have hscalar : ScalarText n w (.scalar s true) := by
      have h := ScalarText.plain hread hbegin
      rwa [String.ofList_toList] at h
    exact ⟨hfresh, w, s, _, hw, hscalar, .plain hkind, by simp⟩
  · obtain ⟨hfresh, w, t, hw, hread, ht⟩ := exists_writeSingle true hn hsingle p
    rw [keepsText, hstyle]
    exact ⟨hfresh, _, _, _, hw, .quoted false hread, .quoted, hofList.trans (ht.trans (by simp))⟩
  · obtain ⟨hfresh, w, t, hw, hread, ht⟩ := exists_writeDouble true hn hp s.toList
    rw [keepsText, hstyle]
    exact ⟨hfresh, _, _, _, hw, .quoted true hread, .quoted, hofList.trans (ht.trans (by simp))⟩

/-! ### Keys on one line with their values -/

lemma takesColumn_of_isVisible (h : isVisible c = true) (hbreak : isBreak c = false) :
    Cursor.TakesColumn c := by
  refine ⟨?_, ?_⟩
  · have hreturn : c ≠ '\r' := by rintro rfl; cases h
    simp [isLineEnd, hreturn, hbreak]
  · rintro rfl
    cases h

lemma takesColumn_of_mem_encode {d : Char} (h : d ∈ encode c) : Cursor.TakesColumn d := by
  rw [encode] at h
  split_ifs at h with hdirect
  · cases List.mem_singleton.1 h
    refine ⟨(isDirect_cases hdirect).2.2.1, ?_⟩
    rintro rfl
    cases hdirect
  · have hbasic := isBasic_of_mem_escape h
    have hne : ∀ e, isBasic e = false → d ≠ e := by
      rintro e he rfl
      rw [hbasic] at he
      cases he
    exact ⟨by simp [isLineEnd, isBreak, hne '\r' rfl, hne '\n' rfl, hne '\x85' rfl, hne '\u2028' rfl,
      hne '\u2029' rfl], hne _ rfl⟩

lemma atDocumentMark_key (h : hasMarks cs = false) (m : List Char) :
    atDocumentMark (cs ++ ':' :: m) = false := by
  have hprefix (d : Char) (hd : d ≠ ':') (hcs : [d, d, d].isPrefixOf cs = false) :
      isDocumentMark d (cs ++ ':' :: m) = false := by
    rw [isDocumentMark]
    rcases cs with _ | ⟨a, _ | ⟨b, _ | ⟨c, cs⟩⟩⟩
    · simp [List.isPrefixOf, hd]
    · simp [List.isPrefixOf, hd]
    · simp [List.isPrefixOf, hd]
    · have heq : [d, d, d].isPrefixOf (a :: b :: c :: cs ++ ':' :: m) =
          [d, d, d].isPrefixOf (a :: b :: c :: cs) := by
        simp [List.isPrefixOf]
      rw [heq, hcs]
      rfl
  simp only [hasMarks, Bool.or_eq_false_iff] at h
  rw [atDocumentMark, hprefix _ (by decide) h.1.1.1, hprefix _ (by decide) h.1.1.2]
  rfl

/-- What is written for a key on one line with its value. -/
structure KeyText (n : ℕ) (s : String) (w : List Char) (token : Token) : Prop where
  scalar : ScalarText n w token
  text : IsText s token
  line : ∀ c ∈ w, Cursor.TakesColumn c
  noMark : ∀ m, atDocumentMark (w ++ ':' :: m) = false
  kept : keepsText true n s = true ↔ w.length ≤ Scanner.keyReach

/-- The characters between quotes. -/
lemma KeyText.quoted {double : Bool} (hread : IsQuoted double w s.toList)
    (hline : ∀ c ∈ w, Cursor.TakesColumn c)
    (hkept : keepsText true n s = true ↔ w.length + 2 ≤ Scanner.keyReach) :
    KeyText n s (quoteMark double :: (w ++ [quoteMark double])) (.scalar s false) := by
  have hquote : Cursor.TakesColumn (quoteMark double) := by
    cases double <;> exact ⟨rfl, by decide⟩
  have hscalar := ScalarText.quoted (n := n) double hread
  rw [String.ofList_toList] at hscalar
  have hlength : (quoteMark double :: (w ++ [quoteMark double])).length = w.length + 2 := by simp
  refine ⟨hscalar, .quoted, ?_, fun m => ?_, hlength ▸ hkept⟩
  · exact List.forall_mem_cons.2 ⟨hquote, List.forall_mem_append.2 ⟨hline, List.forall_mem_singleton.2 hquote⟩⟩
  · cases double <;> simp [quoteMark, atDocumentMark, isDocumentMark, List.isPrefixOf]

lemma length_lt_of_isSimpleKey (h : isSimpleKey (.str s) = true) : s.toList.length < 123 := by
  unfold isSimpleKey keyLimit at h
  simp only [Bool.and_eq_true, decide_eq_true_eq] at h
  rw [String.length_toList]
  omega

/-- What is written on the line can be read off what the pen writes. -/
lemma eq_of_written {q : Pen} {w w' g t : List Char} (hg : g = []) (hw : q.written = w.reverse ++ (g ++ t))
    (hw' : q.written = w'.reverse ++ t) : w = w' := by
  rw [hg, hw'] at hw
  exact List.reverse_injective (List.append_cancel_right hw).symm

lemma exists_plainKey (hn : 0 < n) (hp : p.apart = true) (hlength : s.toList.length < 123)
    (hstyle : Style.ofText true s = .plain) (hkind : Kind.ofScalar s = .text)
    (h : allowsPlain s.toList = true) :
    (writePlain n false s.toList p).fresh = false ∧ p.column ≤ (writePlain n false s.toList p).column ∧
      ∃ w token,
      (writePlain n false s.toList p).written = w.reverse ++ p.written ∧ KeyText n s w token := by
  have hwrite : writePlain n false s.toList p = p.settle.put s.toList := by
    have hline := writePlainRuns_line (n := n) (runs_of_allowsPlain h).2.1 p.settle
    rw [text_runs] at hline
    rw [writePlain, (hasMarks_of_allowsPlain h).1, hp]
    exact hline
  obtain ⟨hfresh, w, hw, hread, hbegin⟩ := exists_writePlain hn h false p
  have hwritten : (writePlain n false s.toList p).written = s.toList.reverse ++ p.written := by rw [hwrite]; rfl
  obtain rfl := eq_of_written (if_pos hp) hw hwritten
  have hscalar := ScalarText.plain hread hbegin
  rw [String.ofList_toList] at hscalar
  have hcolumn : p.column ≤ (writePlain n false s.toList p).column := by rw [hwrite]; exact Nat.le_add_right _ _
  refine ⟨hfresh, hcolumn, _, _, hwritten, hscalar, .plain hkind, fun c hc => ?_,
    atDocumentMark_key (hasMarks_of_allowsPlain h).2, ?_⟩
  · exact takesColumn_of_isVisible (isVisible_of_allowsPlain h hc)
      (Bool.eq_false_iff.2 fun hbreak => not_mem_of_allowsPlain h hbreak hc)
  · rw [keepsText, hstyle, Scanner.keyReach]
    exact iff_of_true rfl (by omega)

/-- On the line the column only grows. -/
lemma column_le_close (double : Bool) {q : Pen} {t : List Char}
    (hq : q = (p.mark [quoteMark double] true false false).put t) :
    p.column ≤ (q.mark [quoteMark double] false false false).column := by
  have hopen := mark_open_column double p
  rw [hq, Pen.mark]
  simp only [Bool.not_false, Bool.or_true, if_true, Pen.put_column]
  omega

lemma length_flatMap_doubled_le (cs : List Char) : (cs.flatMap doubled).length ≤ 2 * cs.length := by
  induction cs with
  | nil => exact Nat.le_refl 0
  | cons c cs ih =>
    have hc : (doubled c).length ≤ 2 := by
      rw [doubled]
      split_ifs <;> simp
    rw [List.flatMap_cons, List.length_append, List.length_cons]
    omega

lemma exists_singleKey (hn : 0 < n) (hp : p.apart = true) (hlength : s.toList.length < 123)
    (hstyle : Style.ofText true s = .single) (h : allowsSingle s.toList = true)
    (hline : ∀ c ∈ s.toList, isBreak c = false) :
    (writeSingle n false s.toList p).fresh = false ∧ p.column ≤ (writeSingle n false s.toList p).column ∧
      ∃ w token,
      (writeSingle n false s.toList p).written = w.reverse ++ p.written ∧ KeyText n s w token := by
  have hnext : nextLine ∉ s.toList := fun hmem => by
    have := hline _ hmem
    cases this
  obtain ⟨hfresh, w, t, hw, hread, ht⟩ := exists_writeSingle false hn h p
  obtain rfl := ht.2 hnext
  have hruns := writeSingleRuns_line n true (runs s.toList) (by rwa [text_runs])
    (isTidy_runs_of_allowsSingle h).1 (p.mark [quoteMark false] true false false)
  rw [text_runs] at hruns
  have hcolumn : p.column ≤ (writeSingle n false s.toList p).column := column_le_close false hruns
  have hwritten : (writeSingle n false s.toList p).written =
      (quoteMark false :: (s.toList.flatMap doubled ++ [quoteMark false])).reverse ++ p.written := by
    refine mark_close false ((congrArg Pen.written hruns).trans ?_)
    rw [Pen.put_written, mark_open_written, Pen.gap, if_pos hp]
    rfl
  obtain rfl : w = s.toList.flatMap doubled := by
    have heq := eq_of_written (if_pos hp) hw hwritten
    simpa using heq
  refine ⟨hfresh, hcolumn, _, _, hwritten, .quoted hread (fun d hd => ?_) ?_⟩
  · obtain ⟨c, hc, hd⟩ := List.mem_flatMap.1 hd
    have htakes : Cursor.TakesColumn c := by
      simp only [allowsSingle, Bool.and_eq_true, List.all_eq_true] at h
      exact takesColumn_of_isVisible (h.1.1 c hc) (hline c hc)
    rw [doubled] at hd
    split_ifs at hd with hquote
    · simp only [List.mem_cons, List.not_mem_nil, or_false, or_self] at hd
      rwa [hd, ← hquote]
    · rwa [List.mem_singleton.1 hd]
  · have hle := length_flatMap_doubled_le s.toList
    rw [keepsText, hstyle, Scanner.keyReach]
    exact iff_of_true (by simpa using hnext) (by omega)

lemma exists_doubleKey (hp : p.apart = true) (hstyle : Style.ofText true s = .double) :
    (writeDouble n false s.toList p).fresh = false ∧ p.column ≤ (writeDouble n false s.toList p).column ∧
      ∃ w token,
      (writeDouble n false s.toList p).written = w.reverse ++ p.written ∧ KeyText n s w token := by
  -- without folds the indent does not matter
  have hindent : writeDouble n false s.toList p = writeDouble 1 false s.toList p := by
    rw [writeDouble, writeDouble, writeDoubleChars_line, writeDoubleChars_line]
  obtain ⟨hfresh, w, t, hw, hread, ht⟩ := exists_writeDouble (p := p) false Nat.one_pos (by omega) s.toList
  obtain rfl := ht.2 rfl
  rw [← hindent] at hfresh hw
  have hwritten : (writeDouble n false s.toList p).written =
      (quoteMark true :: (s.toList.flatMap encode ++ [quoteMark true])).reverse ++ p.written := by
    refine mark_close true ?_
    rw [writeDoubleChars_line, Pen.put_written, show ['"'] = [quoteMark true] from rfl, mark_open_written,
      Pen.gap, if_pos hp]
    rfl
  obtain rfl : w = s.toList.flatMap encode := by
    have heq := eq_of_written (if_pos hp) hw hwritten
    simpa using heq
  have hcolumn : p.column ≤ (writeDouble n false s.toList p).column :=
    column_le_close true (writeDoubleChars_line true [] _ _)
  refine ⟨hfresh, hcolumn, _, _, hwritten, .quoted hread (fun d hd => ?_) ?_⟩
  · obtain ⟨c, -, hd⟩ := List.mem_flatMap.1 hd
    exact takesColumn_of_mem_encode hd
  · rw [keepsText, hstyle]
    simp [Nat.add_comm]

/-- **A short text is written as a key on the line.** -/
theorem exists_writeKey (hn : 0 < n) (hp : p.apart = true) (hkey : isSimpleKey (.str s) = true) :
    (writeStyled (Style.ofText true s) n false s.toList p).fresh = false ∧
      p.column ≤ (writeStyled (Style.ofText true s) n false s.toList p).column ∧ ∃ w token,
      (writeStyled (Style.ofText true s) n false s.toList p).written = w.reverse ++ p.written ∧
      KeyText n s w token := by
  have hlength := length_lt_of_isSimpleKey hkey
  obtain ⟨hstyle, hkind, hplain⟩ | ⟨hstyle, hsingle, hline⟩ | hstyle := style_cases true s
  · rw [hstyle]
    exact exists_plainKey hn hp hlength hstyle hkind hplain
  · rw [hstyle]
    exact exists_singleKey hn hp hlength hstyle hsingle (hline rfl)
  · rw [hstyle]
    exact exists_doubleKey hp hstyle

end ApiContract.Yaml
