import ApiContract.Proofs.Yaml.Cursor
import ApiContract.Proofs.Yaml.Pen
import ApiContract.Proofs.Yaml.QuotedReading
import ApiContract.Proofs.Yaml.Runs
import ApiContract.Yaml.Token.Plain

/-!
Texts without quotes, as they are written and read. A text that may be written so has words between its spaces
that no mark begins or ends; each of them is read as a word, also where the line is folded
(`writesPlain`).
-/

namespace ApiContract.Yaml

variable {c : Char} {cs m s w ws : List Char} {fold : Bool} {n k : ℕ} {p : Pen} {rs : List Run}

/-! ### Words -/

/-- A run that is a word without a hash sign at its front or a colon at its end, or spaces. -/
def Run.IsPlain : Run → Prop
  | spaces _ => True
  | breaks _ => False
  | word cs => cs.head? ≠ some '#' ∧ cs.getLast? ≠ some ':'

lemma cutWord_append (hws : ∀ c ∈ ws, isSpacing c = false ∧ isLineEnd c = false)
    (hlast : ws.getLast? ≠ some ':') (hm : cutWord false m = ([], m)) : cutWord false (ws ++ m) = (ws, m) := by
  induction ws with
  | nil => exact hm
  | cons c ws ih =>
    obtain ⟨⟨hspace, hend⟩, hws⟩ := List.forall_mem_cons.1 hws
    have hcolon : (c == ':' && gapFollows (ws ++ m)) = false := by
      cases ws with
      | nil =>
        have hne : c ≠ ':' := by simpa using hlast
        rw [beq_false_of_ne hne, Bool.false_and]
      | cons d ws =>
        obtain ⟨hspace, hend⟩ := hws d List.mem_cons_self
        simp [gapFollows, hspace, hend]
    have hstays : endsPlain false c (ws ++ m) = false := by
      simp only [endsPlain, hspace, hend, Bool.false_and, Bool.or_false, hcolon]
    have hlast' : ws.getLast? ≠ some ':' := by
      cases ws with
      | nil => simp
      | cons d ws => rwa [List.getLast?_cons_cons] at hlast
    rw [List.cons_append, cutWord, hstays, ih hws hlast']
    rfl

lemma cutWord_of_gap (h : isSpacing c = true ∨ isLineEnd c = true) (m : List Char) :
    cutWord false (c :: m) = ([], c :: m) := by
  rw [cutWord, if_pos]
  rcases h with h | h <;> simp [endsPlain, h]

lemma isSpace_of_mem_replicate (h : c ∈ List.replicate k ' ') : (c == ' ') = true := by
  rw [List.eq_of_mem_replicate h]
  rfl

lemma IsFirm.isSpace_head? (h : IsFirm m) : ∀ c ∈ m.head?, (c == ' ') = false :=
  fun c hc => (Bool.or_eq_false_iff.1 (h c hc).1).1

lemma dropWhile_spaces (hm : IsFirm m) (k : ℕ) : (List.replicate k ' ' ++ m).dropWhile (· == ' ') = m :=
  dropWhile_append_of_head? (fun _ => isSpace_of_mem_replicate) hm.isSpace_head?

lemma takeWhile_spaces (hm : IsFirm m) (k : ℕ) :
    (List.replicate k ' ' ++ m).takeWhile (· == ' ') = List.replicate k ' ' :=
  takeWhile_append_of_head? (fun _ => isSpace_of_mem_replicate) hm.isSpace_head?

lemma cutPlainGap_spaces (hm : IsFirm m) (k : ℕ) :
    cutPlainGap (List.replicate k ' ' ++ m) = ⟨List.replicate k ' ', m, false⟩ := by
  have hnone : cutBreak m = none := cutBreak_eq_none fun c hc => (hm c hc).2
  rw [cutPlainGap]
  simp only [dropWhile_spaces hm, takeWhile_spaces hm, hnone]

lemma cutEmptyLines_spaces (hm : IsFirm m) (hmark : atDocumentMark (List.replicate k ' ' ++ m) = false) :
    cutEmptyLines (List.replicate k ' ' ++ m) = (some [], m) := by
  have hnone : cutBreak m = none := cutBreak_eq_none fun c hc => (hm c hc).2
  rw [cutEmptyLines, hmark, if_neg Bool.false_ne_true]
  split
  · rw [dropWhile_spaces hm]
  · rename_i hsome
    rw [dropWhile_spaces hm, hnone] at hsome
    cases hsome

/-- A new line with spaces at its front. -/
lemma cutPlainGap_newLine (hm : IsFirm m) (hmark : atDocumentMark (List.replicate k ' ' ++ m) = false) :
    cutPlainGap ('\n' :: (List.replicate k ' ' ++ m)) = ⟨[' '], m, true⟩ := by
  rw [cutPlainGap, List.dropWhile_cons_of_neg (by decide)]
  simp only [cutBreak_cons (b := '\n') rfl, cutEmptyLines_spaces hm hmark]
  rfl

/-! ### Several words -/

/-- A text that ends a plain scalar whose further lines are indented by so much: what is left behind it, and
whether the line ends before that. -/
inductive EndsPlain (indent : ℤ) : List Char → List Char → Bool → Prop where
  | line {k : ℕ} {r : List Char} (hr : IsFirm r)
    (hmark : atDocumentMark (List.replicate k ' ' ++ r) = false) (hk : k < indent) :
    EndsPlain indent ('\n' :: (List.replicate k ' ' ++ r)) r true
  | colon {r : List Char} (hr : gapFollows r = true) : EndsPlain indent (':' :: r) (':' :: r) false

section

open Cursor

variable {c : Cursor} {gap r : List Char} {indent : ℤ} {broken b : Bool}

lemma cutWords_succ (hne : ws ≠ []) (hhash : ws.head? ≠ some '#') (hrest : c.rest = ws ++ m)
    (hcut : cutWord false (ws ++ m) = (ws, m)) (fuel : ℕ) :
    cutWords false indent gap b (fuel + 1) c =
      if (cutPlainGap m).text.isEmpty || (c.moveTo (cutPlainGap m).rest).rest.head? == some '#' ||
          (c.moveTo (cutPlainGap m).rest).column < indent then
        ⟨gap ++ ws, c.moveTo (cutPlainGap m).rest, (cutPlainGap m).broken⟩
      else
        let s := cutWords false indent (cutPlainGap m).text (cutPlainGap m).broken fuel
          (c.moveTo (cutPlainGap m).rest)
        { s with text := gap ++ ws ++ s.text } := by
  have hhead : (c.rest.head? == some '#') = false := by
    rw [hrest, List.head?_append_of_ne_nil _ hne]
    simpa using hhash
  have hempty : ws.isEmpty = false := by simpa using hne
  rw [cutWords]
  simp only [hrest ▸ hcut, hhead, hempty, Bool.or_false, Bool.false_eq_true, if_false, Bool.not_false,
    Bool.true_and]

/-- The last word. -/
lemma cutWords_last (hne : ws ≠ []) (hws : ∀ c ∈ ws, isSpacing c = false ∧ isLineEnd c = false)
    (hplain : (Run.word ws).IsPlain) (hrest : c.rest = ws ++ m) (hm : EndsPlain indent m r broken) (fuel : ℕ) :
    cutWords false indent gap b (fuel + 1) c = ⟨gap ++ ws, c.moveTo r, broken⟩ := by
  cases hm with
  | line hr hmark hk =>
    rename_i k
    have hcut := cutWord_append hws hplain.2 (cutWord_of_gap (c := '\n') (.inr rfl) (List.replicate k ' ' ++ r))
    rw [cutWords_succ hne hplain.1 hrest hcut, cutPlainGap_newLine hr hmark, if_pos]
    simp [(moveTo_line hrest).2, hk]
  | colon hr =>
    rename_i r
    have hstop : cutWord false (':' :: r) = ([], ':' :: r) := by
      rw [cutWord, if_pos]
      simp [endsPlain, hr]
    have hgap : cutPlainGap (':' :: r) = ⟨[], ':' :: r, false⟩ :=
      cutPlainGap_spaces (k := 0) (isFirm_cons.2 (by decide))
    rw [cutWords_succ hne hplain.1 hrest (cutWord_append hws hplain.2 hstop), hgap, if_pos]
    rfl

/-- A word before a gap, behind which another one begins. -/
lemma cutWords_gap (hne : ws ≠ []) (hws : ∀ c ∈ ws, isSpacing c = false ∧ isLineEnd c = false)
    (hplain : (Run.word ws).IsPlain) {g : List Char} (hrest : c.rest = ws ++ m)
    (hm : cutWord false m = ([], m)) (hgap : cutPlainGap m = ⟨g, r, b⟩) (hg : g ≠ [])
    (hr : (c.moveTo r).rest = r) (hhash : r.head? ≠ some '#')
    (hcolumn : indent ≤ (c.moveTo r).column) (fuel : ℕ) {b' : Bool} :
    cutWords false indent gap b' (fuel + 1) c =
      { cutWords false indent g b fuel (c.moveTo r) with
        text := gap ++ ws ++ (cutWords false indent g b fuel (c.moveTo r)).text } := by
  rw [cutWords_succ hne hplain.1 hrest (cutWord_append hws hplain.2 hm), hgap, if_neg]
  simp [hg, hr, hhash, hcolumn]

/-- A word, and spaces before another one. -/
lemma cutWords_spaces (hne : ws ≠ []) (hws : ∀ c ∈ ws, isSpacing c = false ∧ isLineEnd c = false)
    (hplain : (Run.word ws).IsPlain) (hk : 0 < k) (hm : IsFirm m) (hhash : m.head? ≠ some '#')
    (hrest : c.rest = ws ++ (List.replicate k ' ' ++ m)) (hcolumn : indent ≤ c.column + 1) (fuel : ℕ) :
    indent ≤ (c.moveTo m).column ∧ cutWords false indent gap b (fuel + 1) c =
      { cutWords false indent (List.replicate k ' ') false fuel (c.moveTo m) with
        text := gap ++ ws ++ (cutWords false indent (List.replicate k ' ') false fuel (c.moveTo m)).text } := by
  have hrest' : c.rest = (ws ++ List.replicate k ' ') ++ m := by rw [hrest, List.append_assoc]
  have hle : indent ≤ (c.moveTo m).column := by
    have hword := column_le_moveTo hrest fun c hc => (hws c hc).2
    rw [← moveTo_moveTo hrest, moveTo_of_takesColumn (moveTo_rest hrest) fun _ => takesColumn_of_mem_replicate,
      List.length_replicate]
    simp only
    omega
  obtain ⟨k, rfl⟩ := Nat.exists_eq_succ_of_ne_zero hk.ne'
  exact ⟨hle, cutWords_gap hne hws hplain hrest (cutWord_of_gap (.inl rfl) _) (cutPlainGap_spaces hm _)
    (List.cons_ne_nil _ _) (moveTo_rest hrest') hhash hle fuel⟩

/-- A word, and a fold before another one. -/
lemma cutWords_folded (hne : ws ≠ []) (hws : ∀ c ∈ ws, isSpacing c = false ∧ isLineEnd c = false)
    (hplain : (Run.word ws).IsPlain) (hk : indent ≤ k) (h0 : 0 < k) (hm : IsFirm m) (hhash : m.head? ≠ some '#')
    (hrest : c.rest = ws ++ '\n' :: (List.replicate k ' ' ++ m)) (fuel : ℕ) :
    indent ≤ (c.moveTo m).column ∧ cutWords false indent gap b (fuel + 1) c =
      { cutWords false indent [' '] true fuel (c.moveTo m) with
        text := gap ++ ws ++ (cutWords false indent [' '] true fuel (c.moveTo m)).text } := by
  have hrest' : c.rest = (ws ++ '\n' :: List.replicate k ' ') ++ m := by rw [hrest, List.append_assoc]; rfl
  have hle : indent ≤ (c.moveTo m).column := by rwa [(moveTo_line hrest).2]
  exact ⟨hle, cutWords_gap hne hws hplain hrest (cutWord_of_gap (.inr rfl) _)
    (cutPlainGap_newLine hm (atDocumentMark_replicate h0 _)) (List.cons_ne_nil _ _) (moveTo_rest hrest') hhash
    hle fuel⟩

/-! ### Writing -/

/-- What is written for a plain text at an indent is read as the text, however its first word is reached. The
indent that its lines must have is not larger than its own one, and at most one more than the column where it
begins. -/
def IsPlainText (n : ℕ) (w cs : List Char) : Prop :=
  ∀ (c : Cursor) (m r gap : List Char) (indent : ℤ) (b broken : Bool) (fuel : ℕ), c.rest = w ++ m →
    indent ≤ n → indent ≤ c.column + 1 → EndsPlain indent m r broken → (w ++ m).length ≤ fuel →
    cutWords false indent gap b fuel c = ⟨gap ++ cs, c.moveTo r, broken⟩

lemma IsPlainText.word (hne : ws ≠ []) (hws : ∀ c ∈ ws, isSpacing c = false ∧ isLineEnd c = false)
    (hplain : (Run.word ws).IsPlain) : IsPlainText n ws ws := by
  intro c m r gap indent b broken fuel hrest _ _ hm hfuel
  have hlength := List.length_pos_of_ne_nil hne
  obtain ⟨fuel, rfl⟩ : ∃ f, fuel = f + 1 := ⟨fuel - 1, by rw [List.length_append] at hfuel; omega⟩
  exact cutWords_last hne hws hplain hrest hm fuel

lemma EndsPlain.exists_append (h : EndsPlain indent m r broken) : ∃ w, m = w ++ r := by
  cases h with
  | line => exact ⟨_ :: _, rfl⟩
  | colon => exact ⟨[], rfl⟩

/-- A character at which a word begins comes first. -/
def OpensWord (w : List Char) : Prop :=
  ∃ c w', w = c :: w' ∧ c ≠ '#' ∧ isSpacing c = false ∧ isLineEnd c = false

lemma OpensWord.isFirm_append (h : OpensWord w) (m : List Char) :
    IsFirm (w ++ m) ∧ (w ++ m).head? ≠ some '#' := by
  obtain ⟨c, w, rfl, hhash, hfirm⟩ := h
  exact ⟨isFirm_cons.2 hfirm, by simpa using hhash⟩

/-- A word and a gap, behind which the text goes on. -/
lemma IsPlainText.append (h : IsPlainText n w cs) (hw : OpensWord w) (hne : ws ≠ []) {g t : List Char}
    (hgap : ∀ (c : Cursor) (m gap : List Char) (indent : ℤ) (b : Bool) (fuel : ℕ), IsFirm m →
      m.head? ≠ some '#' → c.rest = ws ++ (t ++ m) → indent ≤ n → indent ≤ c.column + 1 → ∃ b',
        indent ≤ (c.moveTo m).column ∧ cutWords false indent gap b (fuel + 1) c =
          { cutWords false indent g b' fuel (c.moveTo m) with
            text := gap ++ ws ++ (cutWords false indent g b' fuel (c.moveTo m)).text }) :
    IsPlainText n (ws ++ (t ++ w)) (ws ++ (g ++ cs)) := by
  intro c m r gap indent b broken fuel hrest hn hcolumn hm hfuel
  have hlength := List.length_pos_of_ne_nil hne
  simp only [List.length_append] at hfuel
  obtain ⟨fuel, rfl⟩ : ∃ f, fuel = f + 1 := ⟨fuel - 1, by omega⟩
  obtain ⟨hfirm, hhash⟩ := hw.isFirm_append m
  have hrest : c.rest = ws ++ (t ++ (w ++ m)) := by simpa only [List.append_assoc] using hrest
  have hrest' : c.rest = (ws ++ t) ++ (w ++ m) := by rw [hrest, List.append_assoc]
  obtain ⟨b', hle, heq⟩ := hgap c (w ++ m) gap indent b fuel hfirm hhash hrest hn hcolumn
  obtain ⟨w', rfl⟩ := hm.exists_append
  have hmove : (c.moveTo (w ++ (w' ++ r))).moveTo r = c.moveTo r := by
    have hmove : c.rest = ws ++ t ++ (w ++ w' ++ r) → (c.moveTo (w ++ w' ++ r)).moveTo r = c.moveTo r :=
      moveTo_moveTo
    simp only [List.append_assoc] at hmove
    exact hmove hrest
  rw [heq, h _ _ r g indent b' broken fuel (moveTo_rest hrest') hn (by omega) hm
    (by simp only [List.length_append] at hfuel ⊢; omega), hmove]
  simp only [List.append_assoc]

/-- One pen writes runs without quotes, and then is another one. -/
def WritesPlain (n : ℕ) (rs : List Run) (p q : Pen) : Prop :=
  q.fresh = false ∧ ∃ w, q.written = w.reverse ++ p.written ∧
    (∀ ws, rs.head? = some (.word ws) → ws <+: w) ∧ IsPlainText n w (rs.flatMap Run.text)

namespace WritesPlain

variable {q : Pen} {us : List Char}

lemma word (hws : (Run.word ws).IsProper) (hplain : (Run.word ws).IsPlain) (hp : p.fresh = false) :
    WritesPlain n [.word ws] p (p.put ws) := by
  refine ⟨hp, ws, rfl, fun _ h => ?_, ?_⟩
  · cases h
    exact List.prefix_rfl
  · rw [List.flatMap_singleton]
    exact .word hws.1 hws.2 hplain

lemma opensWord_of_begins (hus : (Run.word us).IsProper) (hplain : (Run.word us).IsPlain) (h : us <+: w) :
    OpensWord w := by
  obtain ⟨t, rfl⟩ := h
  obtain ⟨c, us, rfl⟩ := List.exists_cons_of_ne_nil hus.1
  exact ⟨c, us ++ t, rfl, by simpa using hplain.1, hus.2 c List.mem_cons_self⟩

/-- A word, a space where the line is folded, and another word. -/
lemma folded (h : WritesPlain n (.word us :: rs) ((p.put ws).indent n).settle q) (hn : 0 < n)
    (hws : (Run.word ws).IsProper) (hplain : (Run.word ws).IsPlain) (hus : (Run.word us).IsProper)
    (hplain' : (Run.word us).IsPlain) (hp : p.fresh = false) :
    WritesPlain n (.word ws :: .spaces 1 :: .word us :: rs) p q := by
  obtain ⟨hfresh, w, hw, hhead, hread⟩ := h
  have hindent : (p.put ws).indent n = .onLine (p.put ws).written n := Pen.indent_eq_onLine (.inl hp)
  refine ⟨hfresh, ws ++ ('\n' :: List.replicate n ' ' ++ w), ?_, ?_, ?_⟩
  · rw [hw, hindent]
    simp [Pen.onLine]
  · rintro _ ⟨⟩
    exact List.prefix_append _ _
  · exact hread.append (g := [' ']) (opensWord_of_begins hus hplain' (hhead us rfl)) hws.1
      fun c m gap indent b fuel hm hhash hrest hn' _ =>
        ⟨true, cutWords_folded hws.1 hws.2 hplain hn' hn hm hhash hrest fuel⟩

/-- A word, spaces on its line, and another word. -/
lemma spaces (h : WritesPlain n (.word us :: rs) ((p.put ws).put (List.replicate k ' ')) q) (hk : 0 < k)
    (hws : (Run.word ws).IsProper) (hplain : (Run.word ws).IsPlain) (hus : (Run.word us).IsProper)
    (hplain' : (Run.word us).IsPlain) : WritesPlain n (.word ws :: .spaces k :: .word us :: rs) p q := by
  obtain ⟨hfresh, w, hw, hhead, hread⟩ := h
  refine ⟨hfresh, ws ++ (List.replicate k ' ' ++ w), ?_, ?_, ?_⟩
  · rw [hw]
    simp
  · rintro _ ⟨⟩
    exact List.prefix_append _ _
  · exact hread.append (g := List.replicate k ' ') (opensWord_of_begins hus hplain' (hhead us rfl)) hws.1
      fun c m gap indent b fuel hm hhash hrest _ hcolumn =>
        ⟨false, cutWords_spaces hws.1 hws.2 hplain hk hm hhash hrest hcolumn fuel⟩

end WritesPlain

/-- **What is written without quotes is read back.** -/
theorem writesPlain (fold : Bool) (hn : 0 < n) :
    (rs : List Run) → (p : Pen) → IsTidy rs → (∀ r ∈ rs, r.IsPlain) →
    (∀ r ∈ rs.head?, r.isWord = true) → (∀ r ∈ rs.getLast?, r.isWord = true) → rs ≠ [] → p.fresh = false →
    WritesPlain n rs p (writePlainRuns n fold rs p)
  | [], _, _, _, _, _, hne, _ => absurd rfl hne
  | [.word ws], p, htidy, hplain, _, _, _, hp =>
    .word (htidy.1 _ List.mem_cons_self) (hplain _ List.mem_cons_self) hp
  | [.spaces _], _, _, _, hhead, _, _, _ | [.breaks _], _, _, _, hhead, _, _, _ => by cases hhead _ rfl
  | .spaces _ :: _ :: _, _, _, _, hhead, _, _, _ | .breaks _ :: _ :: _, _, _, _, hhead, _, _, _ => by
    cases hhead _ rfl
  | .word _ :: .word _ :: _, _, htidy, _, _, _, _, _ => by cases htidy.isWord_head _ rfl
  | .word _ :: .breaks _ :: _, _, _, hplain, _, _, _, _ =>
    (hplain _ (List.mem_cons_of_mem _ List.mem_cons_self)).elim
  | [.word _, .spaces _], _, _, _, _, hlast, _, _ => by cases hlast _ rfl
  | .word _ :: .spaces _ :: .spaces _ :: _, _, htidy, _, _, _, _, _
  | .word _ :: .spaces _ :: .breaks _ :: _, _, htidy, _, _, _, _, _ => by cases htidy.tail.isWord_head _ rfl
  | .word ws :: .spaces k :: .word us :: rs, p, htidy, hplain, _, hlast, _, hp => by
    obtain ⟨hws, hproper⟩ := List.forall_mem_cons.1 htidy.1
    obtain ⟨hk, hproper⟩ := List.forall_mem_cons.1 hproper
    obtain ⟨hws', hplain⟩ := List.forall_mem_cons.1 hplain
    have hplain := (List.forall_mem_cons.1 hplain).2
    have hus := hproper _ List.mem_cons_self
    have hus' := hplain _ List.mem_cons_self
    have ih := fun q => writesPlain fold hn (.word us :: rs) q htidy.tail.tail hplain
      (by rintro _ ⟨⟩; rfl) hlast (List.cons_ne_nil _ _)
    rw [writePlainRuns, writePlainRuns]
    by_cases hline : k = 1 ∧ fold = true ∧ lineWidth < (p.put ws).column
    · -- the space is where the line is folded
      obtain ⟨rfl, -⟩ := id hline
      have hspaces : writeSpaces n 1 fold (p.put ws) = ((p.put ws).indent n, true) := if_pos hline
      simp only [hspaces, if_true]
      exact .folded (ih _ rfl) hn hws hws' hus hus' hp
    · have hspaces : writeSpaces n k fold (p.put ws) = ((p.put ws).put (List.replicate k ' '), false) :=
        if_neg hline
      simp only [hspaces, Bool.false_eq_true, if_false]
      exact .spaces (ih _ hp) hk hws hws' hus hus'

end

/-! ### Texts without marks -/

lemma hasPair_of_forall_right {f g : Char → Bool} (h : ∀ c ∈ cs, g c = false) : hasPair f g cs = false := by
  induction cs with
  | nil => rfl
  | cons c cs ih =>
    cases cs with
    | nil => rfl
    | cons d cs =>
      obtain ⟨-, hcs⟩ := List.forall_mem_cons.1 h
      rw [hasPair, ih hcs, hcs d List.mem_cons_self]
      simp

lemma hasPair_of_forall_left {f g : Char → Bool} (h : ∀ c ∈ cs, f c = false) : hasPair f g cs = false := by
  induction cs with
  | nil => rfl
  | cons c cs ih =>
    cases cs with
    | nil => rfl
    | cons d cs =>
      obtain ⟨hc, hcs⟩ := List.forall_mem_cons.1 h
      rw [hasPair, ih hcs, hc]
      rfl

/-- A visible text on one line has words and spaces in turn. -/
lemma isTidy_runs_line (hvisible : ∀ c ∈ cs, isVisible c = true) (hline : ∀ c ∈ cs, isBreak c = false) :
    IsTidy (runs cs) :=
  isTidy_runs hvisible (hasPair_of_forall_right hline) (hasPair_of_forall_left hline)

/-- Behind a word that a run does not go on there is a gap. -/
lemma gapNext_of_not_fits {r : Run} (hword : .word ws = Run.single c) (hruns : runs cs = r :: rs)
    (hfits : r.fits c = false) : gapNext cs = true := by
  rw [Run.single] at hword
  split_ifs at hword with hspace hbreak
  cases cs with
  | nil => rfl
  | cons d cs =>
    obtain ⟨r', rs', heq, hd⟩ := exists_runs_cons d cs
    rw [hruns] at heq
    cases heq
    cases r with
    | word ds => simp [Run.fits, hspace, hbreak] at hfits
    | spaces k => simp [gapNext, isGapChar, eq_of_beq hd]
    | breaks ds =>
      have hd : isBreak d = true := hd
      simp [gapNext, isGapChar, hd]

/-- In a text without marks no word ends with a colon. -/
lemma getLast?_word_ne {gap : Bool} (hvisible : ∀ c ∈ cs, isVisible c = true)
    (hline : ∀ c ∈ cs, isBreak c = false) (h : hasInnerMark gap cs = false) :
    ∀ ws, Run.word ws ∈ runs cs → ws.getLast? ≠ some ':' := by
  induction cs generalizing gap with
  | nil => exact nofun
  | cons c cs ih =>
    obtain ⟨-, hvisible'⟩ := List.forall_mem_cons.1 hvisible
    obtain ⟨hc, hline'⟩ := List.forall_mem_cons.1 hline
    simp only [hasInnerMark, Bool.or_eq_false_iff] at h
    have hcs := ih hvisible' hline' h.2
    have htidy := (isTidy_runs_line hvisible' hline').1
    intro ws hws
    rw [runs_cons] at hws
    have hsingle (hgap : gapNext cs = true) (hmem : Run.word ws = .single c) : ws.getLast? ≠ some ':' := by
      rw [Run.single] at hmem
      split_ifs at hmem
      cases hmem
      rintro ⟨⟩
      rw [hgap] at h
      cases h.1.1
    cases hruns : runs cs with
    | nil =>
      have hnil : cs = [] := by rw [← text_runs cs, hruns]; rfl
      rw [hruns] at hws
      exact hsingle (by rw [hnil]; rfl) (List.mem_singleton.1 hws)
    | cons r rs =>
      rw [hruns] at hws hcs htidy
      have hrs : Run.word ws ∈ r :: rs → ws.getLast? ≠ some ':' := hcs ws
      simp only at hws
      split_ifs at hws with hfits
      · rcases List.mem_cons.1 hws with heq | hmem
        · cases r with
          | word ds =>
            cases heq
            obtain ⟨d, ds, rfl⟩ := List.exists_cons_of_ne_nil (htidy _ List.mem_cons_self).1
            rw [List.getLast?_cons_cons]
            exact hcs _ List.mem_cons_self
          | _ => cases heq
        · exact hrs (List.mem_cons_of_mem _ hmem)
      · rcases List.mem_cons.1 hws with heq | hmem
        · exact hsingle (gapNext_of_not_fits heq hruns (Bool.eq_false_iff.2 hfits)) heq
        · exact hrs hmem

/-- In a text without marks no word but the first begins with a hash sign. -/
lemma head?_word_ne {gap : Bool} (h : hasInnerMark gap cs = false) :
    (∀ ws, Run.word ws ∈ (runs cs).tail → ws.head? ≠ some '#') ∧
      ∀ ws, (runs cs).head? = some (.word ws) → ws.head? = cs.head? := by
  induction cs generalizing gap with
  | nil => simp [runs]
  | cons c cs ih =>
    simp only [hasInnerMark, Bool.or_eq_false_iff] at h
    obtain ⟨htail, hhead⟩ := ih h.2
    have hsingle (ws : List Char) (heq : Run.single c = .word ws) : ws.head? = some c := by
      rw [Run.single] at heq
      split_ifs at heq
      cases heq
      rfl
    rw [runs_cons]
    cases hruns : runs cs with
    | nil => exact ⟨by simp, fun ws hws => hsingle ws (Option.some.inj hws)⟩
    | cons r rs =>
      rw [hruns] at htail hhead
      simp only
      split_ifs with hfits
      · refine ⟨htail, fun ws hws => ?_⟩
        cases r with
        | word ds => cases hws; rfl
        | _ => cases hws
      · refine ⟨fun ws hws => ?_, fun ws hws => hsingle ws (Option.some.inj hws)⟩
        rcases List.mem_cons.1 hws with rfl | hmem
        · have hgap : isGapChar c = true := by
            simp only [Run.fits, Bool.and_eq_true, bne_iff_ne, ne_eq, Bool.not_eq_true', not_and,
              Bool.not_eq_false] at hfits
            by_cases hspace : c = ' '
            · rw [hspace]; rfl
            · simp [isGapChar, hfits hspace]
          rw [hhead ws rfl]
          have hinner := h.2
          cases cs with
          | nil => simp
          | cons d cs =>
            rintro ⟨⟩
            simp [hasInnerMark, hgap] at hinner
        · exact htail ws hmem

lemma hasInnerMark_of_hasMarks (h : hasMarks (c :: cs) = false) :
    hasInnerMark false (c :: cs) = false ∧ c ≠ '#' := by
  simp only [hasMarks, startsWithMark, Bool.or_eq_false_iff] at h
  obtain ⟨⟨-, hmark, hsign⟩, hinner⟩ := h
  refine ⟨?_, ?_⟩
  · have hcolon : (c == ':' && gapNext cs) = false := by
      refine Bool.eq_false_iff.2 fun h => ?_
      simp only [Bool.and_eq_true] at h
      simp [h.1, h.2] at hsign
    simp [hasInnerMark, hcolon, hinner]
  · rintro rfl
    simp at hmark

lemma mem_of_mem_runs {r : Run} (hr : r ∈ runs cs) (hc : c ∈ r.text) : c ∈ cs := by
  rw [← text_runs cs]
  exact List.mem_flatMap.2 ⟨r, hr, hc⟩

lemma isPlain_of_mem_runs {r : Run} (hvisible : ∀ c ∈ cs, isVisible c = true)
    (hline : ∀ c ∈ cs, isBreak c = false) (hinner : hasInnerMark false cs = false) (hhash : cs.head? ≠ some '#')
    (hr : r ∈ runs cs) : r.IsPlain := by
  cases r with
  | spaces k => exact trivial
  | breaks ds =>
    obtain ⟨hds, hbreak⟩ := (isTidy_runs_line hvisible hline).1 _ hr
    obtain ⟨d, ds, rfl⟩ := List.exists_cons_of_ne_nil hds
    have hd := hbreak d List.mem_cons_self
    rw [hline d (mem_of_mem_runs hr List.mem_cons_self)] at hd
    cases hd
  | word ws =>
    obtain ⟨htail, hhead⟩ := head?_word_ne hinner
    refine ⟨?_, getLast?_word_ne hvisible hline hinner ws hr⟩
    obtain ⟨r, rs, hruns⟩ := List.exists_cons_of_ne_nil (List.ne_nil_of_mem hr)
    rw [hruns] at hr htail hhead
    rcases List.mem_cons.1 hr with rfl | hr
    · rw [hhead ws rfl]
      exact hhash
    · exact htail ws hr

/-- A run without quotes that is not a word is one of spaces. -/
lemma Run.IsPlain.eq_spaces {r : Run} (h : r.IsPlain) (hproper : r.IsProper) (hword : r.isWord ≠ true) :
    ∃ k, r = .spaces (k + 1) := by
  cases r with
  | word ws => exact absurd rfl hword
  | breaks ds => exact h.elim
  | spaces k => exact ⟨k - 1, by rw [Nat.sub_add_cancel hproper]⟩

/-- **A text that may be written without quotes has words and spaces in turn, from a word on to a word.** -/
theorem runs_of_allowsPlain (h : allowsPlain cs = true) :
    IsTidy (runs cs) ∧ (∀ r ∈ runs cs, r.IsPlain) ∧ (∀ r ∈ (runs cs).head?, r.isWord = true) ∧
      (∀ r ∈ (runs cs).getLast?, r.isWord = true) ∧ runs cs ≠ [] := by
  simp only [allowsPlain, Bool.and_eq_true, Bool.not_eq_true', bne_iff_ne, ne_eq, List.all_eq_true,
    isMultiline, List.any_eq_false, Bool.not_eq_true] at h
  obtain ⟨⟨⟨⟨⟨hne, hvisible⟩, hline⟩, hfirst⟩, hlast⟩, hmarks⟩ := h
  have htidy := isTidy_runs_line hvisible hline
  obtain ⟨c, cs, rfl⟩ := List.exists_cons_of_ne_nil (by simpa using hne)
  obtain ⟨hinner, hhash⟩ := hasInnerMark_of_hasMarks hmarks
  have hplain : ∀ r ∈ runs (c :: cs), r.IsPlain := fun r hr =>
    isPlain_of_mem_runs hvisible hline hinner (by simpa using hhash) hr
  obtain ⟨r, rs, hruns, hc⟩ := exists_runs_cons c cs
  refine ⟨htidy, hplain, fun r hr => ?_, fun r hr => ?_, by rw [hruns]; exact List.cons_ne_nil _ _⟩
  · by_contra hword
    have hmem := List.mem_of_mem_head? hr
    obtain ⟨k, rfl⟩ := (hplain r hmem).eq_spaces (htidy.1 r hmem) hword
    rw [hruns] at hr
    cases hr
    exact hfirst (congrArg some (eq_of_beq hc))
  · by_contra hword
    have hmem := List.mem_of_mem_getLast? hr
    obtain ⟨k, rfl⟩ := (hplain r hmem).eq_spaces (htidy.1 r hmem) hword
    obtain ⟨rs', hrs⟩ := List.getLast?_eq_some_iff.1 hr
    refine hlast ?_
    rw [← text_runs (c :: cs), hrs, List.flatMap_append, List.flatMap_singleton, Run.text,
      List.replicate_succ', ← List.append_assoc, List.getLast?_concat]

/-- Runs without line breaks are written on the line if nothing is folded. -/
lemma writePlainRuns_line (hrs : ∀ r ∈ rs, r.IsPlain) (p : Pen) :
    writePlainRuns n false rs p = p.put (rs.flatMap Run.text) := by
  induction rs generalizing p with
  | nil => rfl
  | cons r rs ih =>
    obtain ⟨hr, hrs⟩ := List.forall_mem_cons.1 hrs
    rw [List.flatMap_cons, ← Pen.put_put, ← ih hrs]
    cases r with
    | word ws => rfl
    | breaks ds => exact hr.elim
    | spaces k =>
      have hspaces : writeSpaces n k false p = (p.put (List.replicate k ' '), false) := if_neg (by simp)
      rw [writePlainRuns]
      simp only [hspaces, Bool.false_eq_true, if_false, Run.text]

end ApiContract.Yaml
