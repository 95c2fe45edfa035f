import ApiContract.Proofs.Yaml.Pen
import ApiContract.Proofs.Yaml.QuotedReading
import ApiContract.Proofs.Yaml.Runs

/-!
Texts in single quotes, as they are written and read. Words and spaces are read as they are, at a fold too. So
are line breaks, except that the next-line character, which is written as it is, counts as a line feed
(`writesSingle`): a text is read back just if that character is not in it (`read_runs_iff`).
-/

namespace ApiContract.Yaml

variable {b c : Char} {bs cs m s w : List Char} {fold first : Bool} {n : ℕ} {p : Pen} {r : Run} {rs : List Run}

/-- The next-line character. -/
def nextLine : Char := '\x85'

/-- A character in single quotes. -/
def doubled (c : Char) : List Char := if c = '\'' then ['\'', '\''] else [c]

/-- What a run in single quotes is read as. -/
def Run.read : Run → List Char
  | breaks (b :: bs) => if b = '\n' then b :: bs.map breakRead else joinLines (breakRead b) (bs.map breakRead)
  | r => r.text

/-! ### Reading -/

lemma cutQuoted_doubled (m : List Char) :
    cutQuoted false ('\'' :: '\'' :: m) = prependChars ['\''] (cutQuoted false m) := by
  have hlt : m.length < m.length + 1 + 1 := by omega
  rw [cutQuoted.eq_2]
  simp [hlt]
  cases cutQuoted false m <;> rfl

lemma IsQuoted.word (h : IsQuoted false w s) (hcs : ∀ c ∈ cs, isSpacing c = false ∧ isLineEnd c = false) :
    IsQuoted false (cs.flatMap doubled ++ w) (cs ++ s) := by
  induction cs with
  | nil => exact h
  | cons c cs ih =>
    obtain ⟨⟨hspace, hend⟩, hcs⟩ := List.forall_mem_cons.1 hcs
    rw [List.flatMap_cons, List.append_assoc]
    refine (ih hcs).prepend (m := [c]) fun r => ?_
    rw [doubled]
    split_ifs with hc
    · rw [hc]
      exact cutQuoted_doubled _
    · exact cutQuoted_char hc (fun h => absurd h Bool.false_ne_true) hspace hend _

lemma IsQuoted.spaces {double : Bool} (h : IsQuoted double w s) (hw : IsFirm w) (n : ℕ) :
    IsQuoted double (List.replicate n ' ' ++ w) (List.replicate n ' ' ++ s) := by
  induction n with
  | zero => exact h
  | succ n ih =>
    have hdrop (r : List Char) : (List.replicate n ' ' ++ w ++ quoteMark double :: r).dropWhile isSpacing =
        w ++ quoteMark double :: r := by
      rw [List.append_assoc, List.dropWhile_append_of_pos isSpacing_of_mem_replicate,
        (hw.append (isFirm_quoteMark double r)).dropWhile]
    refine ih.prepend (t := [' ']) (m := [' ']) fun r => cutQuoted_blank rfl ?_ fun hnil => ?_
    · have hfirm := hw.append (isFirm_quoteMark double r)
      rw [← hdrop r] at hfirm
      exact hfirm
    · exact absurd ((hdrop r).symm.trans hnil) (by simp)

/-- Line breaks with the indent behind them. -/
lemma IsQuoted.breaks {double : Bool} (h : IsQuoted double w s) (hw : IsFirm w) (hn : 0 < n)
    (hb : isBreak b = true) (hbs : ∀ b ∈ bs, isBreak b = true) :
    IsQuoted double (b :: (bs ++ (List.replicate n ' ' ++ w)))
      (joinLines (breakRead b) (bs.map breakRead) ++ s) := by
  intro r hr
  have hcut : cutQuoted double (b :: (bs ++ (List.replicate n ' ' ++ (w ++ quoteMark double :: r)))) =
      prependChars (joinLines (breakRead b) (bs.map breakRead))
        (cutQuoted double (w ++ quoteMark double :: r)) :=
    cutQuoted_breaks hb hbs isSpacing_of_mem_replicate (hw.append (isFirm_quoteMark double r))
      (atDocumentMark_replicate hn _)
  rw [List.cons_append, List.append_assoc, List.append_assoc, hcut, h r hr, List.map_append]
  rfl

/-- A fold, which is read as a space. -/
lemma IsQuoted.folded {double : Bool} (h : IsQuoted double w s) (hw : IsFirm w) (hn : 0 < n) :
    IsQuoted double ('\n' :: (List.replicate n ' ' ++ w)) (' ' :: s) :=
  h.breaks hw hn rfl (List.forall_mem_nil _)

/-! ### Writing -/

lemma foldl_breakLine (hcs : cs ≠ []) (p : Pen) :
    cs.foldl Pen.breakLine p = ⟨cs.reverse ++ p.written, 0, true, true⟩ := by
  induction cs generalizing p with
  | nil => exact absurd rfl hcs
  | cons c cs ih =>
    cases cs with
    | nil => rfl
    | cons d cs =>
      rw [List.foldl_cons, ih (List.cons_ne_nil _ _)]
      simp [Pen.breakLine]

/-- A run of line breaks as it is written. -/
def breakText (cs : List Char) : List Char := if cs.head? = some '\n' then '\n' :: cs else cs

lemma writeBreaks_eq (hcs : cs ≠ []) (p : Pen) : writeBreaks n cs p =
    ⟨List.replicate n ' ' ++ ((breakText cs).reverse ++ p.written), n, true, true⟩ := by
  have hfirst : (if cs.head? = some '\n' then p.breakLine '\n' else p).written =
      (if cs.head? = some '\n' then ['\n'] else []) ++ p.written := by
    split_ifs <;> rfl
  have hbreaks : cs.foldl Pen.breakLine (if cs.head? = some '\n' then p.breakLine '\n' else p) =
      ⟨(breakText cs).reverse ++ p.written, 0, true, true⟩ := by
    rw [foldl_breakLine hcs, hfirst, breakText]
    split_ifs <;> simp
  rw [writeBreaks, hbreaks, Pen.indent_of_fresh rfl]
  · rfl
  · rcases Nat.eq_zero_or_pos n with rfl | hn
    · exact .inr ⟨rfl, rfl⟩
    · exact .inl hn

lemma IsQuoted.breakText (h : IsQuoted false w s) (hw : IsFirm w) (hn : 0 < n) (hcs : cs ≠ [])
    (hbreak : ∀ c ∈ cs, isBreak c = true) :
    IsQuoted false (breakText cs ++ (List.replicate n ' ' ++ w)) ((Run.breaks cs).read ++ s) := by
  cases cs with
  | nil => exact absurd rfl hcs
  | cons b bs =>
    obtain ⟨hb, hbs⟩ := List.forall_mem_cons.1 hbreak
    by_cases hfeed : b = '\n'
    · subst hfeed
      exact h.breaks hw hn rfl (List.forall_mem_cons.2 ⟨rfl, hbs⟩)
    · rw [Yaml.breakText, if_neg (by simpa using hfeed), Run.read, if_neg hfeed]
      exact h.breaks hw hn hb hbs

lemma isFirm_flatMap_doubled (hcs : cs ≠ []) (h : ∀ c ∈ cs, isSpacing c = false ∧ isLineEnd c = false)
    (w : List Char) : IsFirm (cs.flatMap doubled ++ w) := by
  cases cs with
  | nil => exact absurd rfl hcs
  | cons c cs =>
    rw [List.flatMap_cons, doubled]
    split_ifs
    · exact isFirm_cons.2 (by decide)
    · exact isFirm_cons.2 (h c List.mem_cons_self)

lemma length_le_flatMap_doubled (cs : List Char) : cs.length ≤ (cs.flatMap doubled).length := by
  induction cs with
  | nil => exact Nat.le_refl 0
  | cons c cs ih =>
    have hc : 1 ≤ (doubled c).length := by
      rw [doubled]
      split_ifs <;> simp
    rw [List.flatMap_cons, List.length_append, List.length_cons]
    omega

/-- One pen writes runs in single quotes, and then is another one. What is written begins firmly where the first
run is a word. -/
def WritesSingle (rs : List Run) (p q : Pen) : Prop :=
  ∃ w, q.written = w.reverse ++ p.written ∧ IsQuoted false w (rs.flatMap Run.read) ∧
    ((∀ r ∈ rs.head?, r.isWord = true) → IsFirm w)

namespace WritesSingle

variable {q : Pen} {k : ℕ}

lemma nil (p : Pen) : WritesSingle [] p p := ⟨[], rfl, .nil false, fun _ => nofun⟩

lemma word (h : WritesSingle rs (p.put (cs.flatMap doubled)) q) (hcs : (Run.word cs).IsProper) :
    WritesSingle (.word cs :: rs) p q := by
  obtain ⟨w, hw, hread, -⟩ := h
  refine ⟨cs.flatMap doubled ++ w, ?_, ?_, fun _ => isFirm_flatMap_doubled hcs.1 hcs.2 w⟩
  · rw [hw]
    simp
  · rw [List.flatMap_cons]
    exact hread.word hcs.2

/-- A space where the line is folded. -/
lemma folded (h : WritesSingle rs (.onLine p.written n) q) (hn : 0 < n)
    (hnext : ∀ r ∈ rs.head?, r.isWord = true) : WritesSingle (.spaces 1 :: rs) p q := by
  obtain ⟨w, hw, hread, hwfirm⟩ := h
  refine ⟨'\n' :: (List.replicate n ' ' ++ w), ?_, hread.folded (hwfirm hnext) hn, fun h => ?_⟩
  · rw [hw, Pen.onLine]
    simp
  · cases h _ rfl

lemma spaces (h : WritesSingle rs (p.put (List.replicate k ' ')) q)
    (hnext : ∀ r ∈ rs.head?, r.isWord = true) : WritesSingle (.spaces k :: rs) p q := by
  obtain ⟨w, hw, hread, hwfirm⟩ := h
  refine ⟨List.replicate k ' ' ++ w, ?_, ?_, fun h => ?_⟩
  · rw [hw]
    simp
  · rw [List.flatMap_cons]
    exact hread.spaces (hwfirm hnext) k
  · cases h _ rfl

lemma breaks (h : WritesSingle rs (writeBreaks n cs p) q) (hn : 0 < n) (hcs : (Run.breaks cs).IsProper)
    (hnext : ∀ r ∈ rs.head?, r.isWord = true) : WritesSingle (.breaks cs :: rs) p q := by
  obtain ⟨w, hw, hread, hwfirm⟩ := h
  refine ⟨breakText cs ++ (List.replicate n ' ' ++ w), ?_, ?_, fun h => ?_⟩
  · rw [hw, writeBreaks_eq hcs.1]
    simp
  · rw [List.flatMap_cons]
    exact hread.breakText (hwfirm hnext) hn hcs.1 hcs.2
  · cases h _ rfl

end WritesSingle

/-- A pen in single quotes that may begin a new line where spaces come next. -/
def MayFold (n : ℕ) (first : Bool) (rs : List Run) (p : Pen) : Prop :=
  (p.fresh = false ∨ n ≤ p.column) ∧
    ∀ r ∈ rs.head?, r.isWord = false → first = true ∨ p.fresh = false ∨ n < p.column

/-- Where no spaces come next, the pen need not be past the indent. -/
lemma MayFold.of_isWord (hnext : ∀ r ∈ rs.head?, r.isWord = true) (hp : p.fresh = false ∨ n ≤ p.column) :
    MayFold n first rs p :=
  ⟨hp, fun r hr hgap => by rw [hnext r hr] at hgap; cases hgap⟩

/-- Behind a word the pen is past the indent. -/
lemma MayFold.put_word (hp : p.fresh = false ∨ n ≤ p.column) (hcs : cs ≠ []) :
    MayFold n first rs (p.put (cs.flatMap doubled)) := by
  have hlength := Nat.lt_of_lt_of_le (List.length_pos_of_ne_nil hcs) (length_le_flatMap_doubled cs)
  have hpast : p.fresh = false ∨ n < p.column + (cs.flatMap doubled).length := hp.imp_right fun h => by omega
  exact ⟨hpast.imp_right Nat.le_of_lt, fun _ _ _ => .inr hpast⟩

/-- **What is written in single quotes is read run by run.** -/
theorem writesSingle (fold first : Bool) (hn : 0 < n) (hrs : IsTidy rs) (hp : MayFold n first rs p) :
    WritesSingle rs p (writeSingleRuns n fold first rs p) := by
  induction rs generalizing first p with
  | nil => exact .nil p
  | cons r rs ih =>
    have hproper := (List.forall_mem_cons.1 hrs.1).1
    have hnext (hr : r.isWord = false) : ∀ r' ∈ rs.head?, r'.isWord = true := fun r' hr' => by
      rw [hrs.isWord_head r' hr', hr]
      rfl
    obtain ⟨hcolumn, hfold⟩ := hp
    cases r with
    | word cs => exact .word (ih false hrs.tail (.put_word hcolumn hproper.1)) hproper
    | spaces k =>
      rw [writeSingleRuns]
      simp only [writeSpaces]
      split_ifs with hline
      · -- the space is where the line is folded
        obtain ⟨rfl, hallowed, -⟩ := hline
        have hindent : p.indent n = .onLine p.written n := by
          refine Pen.indent_eq_onLine ((hfold _ rfl rfl).resolve_left ?_)
          rintro rfl
          simp at hallowed
        rw [hindent]
        exact .folded (ih false hrs.tail (.of_isWord (hnext rfl) (.inr (Nat.le_refl n)))) hn (hnext rfl)
      · have hput : p.fresh = false ∨ n ≤ p.column + (List.replicate k ' ').length :=
          hcolumn.imp_right fun h => by omega
        exact .spaces (ih false hrs.tail (.of_isWord (hnext rfl) hput)) (hnext rfl)
    | breaks cs =>
      have hcolumn' : (writeBreaks n cs p).column = n := by rw [writeBreaks_eq hproper.1]
      exact .breaks (ih false hrs.tail (.of_isWord (hnext rfl) (.inr hcolumn'.ge))) hn hproper (hnext rfl)

/-- Runs without line breaks are written on the line if nothing is folded. -/
lemma writeSingleRuns_line (n : ℕ) (first : Bool) (rs : List Run)
    (h : ∀ c ∈ rs.flatMap Run.text, isBreak c = false)
    (hrs : ∀ r ∈ rs, r.IsProper) (p : Pen) :
    writeSingleRuns n false first rs p = p.put ((rs.flatMap Run.text).flatMap doubled) := by
  induction rs generalizing first p with
  | nil => rfl
  | cons r rs ih =>
    rw [List.flatMap_cons, List.forall_mem_append] at h
    obtain ⟨hr, htail⟩ := List.forall_mem_cons.1 hrs
    rw [List.flatMap_cons, List.flatMap_append, ← Pen.put_put]
    cases r with
    | word cs => exact ih false h.2 htail _
    | spaces k =>
      have hdoubled : (List.replicate k ' ').flatMap doubled = List.replicate k ' ' := by
        refine (List.flatMap_congr fun c hc => ?_).trans (List.flatMap_singleton' _)
        rw [List.eq_of_mem_replicate hc]
        rfl
      rw [Run.text, hdoubled, ← ih false h.2 htail (p.put _), writeSingleRuns, writeSpaces, if_neg (by simp)]
    | breaks cs =>
      obtain ⟨b, bs, rfl⟩ := List.exists_cons_of_ne_nil hr.1
      have hbreak := hr.2 b List.mem_cons_self
      rw [h.1 b List.mem_cons_self] at hbreak
      cases hbreak

/-! ### Which texts are read back -/

lemma breakRead_ne (b : Char) : breakRead b ≠ nextLine := by
  rw [breakRead]
  split_ifs with h
  · decide
  · exact h

lemma breakRead_of_ne (h : b ≠ nextLine) : breakRead b = b := if_neg h

lemma Run.nextLine_not_mem_read (hr : r.IsProper) : nextLine ∉ r.read := by
  cases r with
  | spaces n =>
    intro h
    cases List.eq_of_mem_replicate h
  | word cs =>
    intro h
    cases (hr.2 _ h).2
  | breaks cs =>
    obtain ⟨b, bs, rfl⟩ := List.exists_cons_of_ne_nil hr.1
    have hbs : nextLine ∉ bs.map breakRead := fun h => by
      obtain ⟨c, -, hc⟩ := List.mem_map.1 h
      exact breakRead_ne c hc
    have hb : nextLine ≠ breakRead b := (breakRead_ne b).symm
    rw [read, joinLines]
    split_ifs with h₁ h₂ h₃
    · rw [h₁]
      exact List.not_mem_cons_of_ne_of_not_mem (by decide) hbs
    · exact List.not_mem_cons_of_ne_of_not_mem hb hbs
    · exact List.not_mem_cons_of_ne_of_not_mem (by decide) hbs
    · exact hbs

lemma Run.read_of_not_mem (hr : r.IsProper) (h : nextLine ∉ r.text) : r.read = r.text := by
  cases r with
  | spaces n => rfl
  | word cs => rfl
  | breaks cs =>
    obtain ⟨b, bs, rfl⟩ := List.exists_cons_of_ne_nil hr.1
    obtain ⟨hb, hbs⟩ := not_or.1 (mt List.mem_cons.2 h)
    have hmap : bs.map breakRead = bs :=
      List.map_congr_left (fun c hc => breakRead_of_ne fun heq => hbs (heq ▸ hc)) |>.trans (List.map_id _)
    rw [read, hmap, breakRead_of_ne fun heq => hb heq.symm]
    split_ifs with hfeed
    · rfl
    · simp [joinLines, hfeed, text]

/-- **A text in single quotes is read back if and only if the next-line character is not in it.** -/
theorem read_runs_iff (hrs : ∀ r ∈ rs, r.IsProper) :
    rs.flatMap Run.read = rs.flatMap Run.text ↔ nextLine ∉ rs.flatMap Run.text := by
  constructor
  · intro h hmem
    rw [← h] at hmem
    obtain ⟨r, hr, hread⟩ := List.mem_flatMap.1 hmem
    exact Run.nextLine_not_mem_read (hrs r hr) hread
  · intro h
    simp only [List.mem_flatMap, not_exists, not_and] at h
    exact List.flatMap_congr fun r hr => Run.read_of_not_mem (hrs r hr) (h r hr)

end ApiContract.Yaml
