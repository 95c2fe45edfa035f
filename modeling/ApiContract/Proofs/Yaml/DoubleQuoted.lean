import ApiContract.Proofs.Yaml.Pen
import ApiContract.Proofs.Yaml.QuotedReading

/-!
Texts in double quotes, as they are written and read. A line is folded with a backslash, and so is a space at
the fold. Far to the right every escape ends its line, and a space behind it is then folded once more: the two
backslashes that this gives stand for one, so the text is read as another one (`writesDouble`).
-/

namespace ApiContract.Yaml

open ApiContract.Text

variable {c : Char} {cs m r s w : List Char} {lossy fold first : Bool} {n : ℕ} {pending : List Char} {p : Pen}

/-- Whether a text begins with a space that is not all of it. -/
def opensWithSpace : List Char → Bool
  | ' ' :: _ :: _ => true
  | _ => false

/-- Whether an escape is followed by a space that is not at the end. -/
def hasSpacedEscape : List Char → Bool
  | [] => false
  | c :: cs => (!isDirect c && opensWithSpace cs) || hasSpacedEscape cs

/-- A character between double quotes. -/
def encode (c : Char) : List Char := if isDirect c then [c] else escape c

/-- Between double quotes `w` is read as some text, which is `cs` unless the reading is lossy. -/
def IsDoubleText (w cs : List Char) (lossy : Bool) : Prop :=
  IsJoined w ∧ ∃ s, IsQuoted true w s ∧ (s = cs ↔ lossy = false)

/-! ### Reading -/

lemma isDirect_cases (h : isDirect c = true) :
    c ≠ '"' ∧ c ≠ '\\' ∧ isLineEnd c = false ∧ (isSpacing c = true → c = ' ') := by
  have hne : ∀ x, isDirect x = false → c ≠ x := by
    rintro x hx rfl
    rw [h] at hx
    cases hx
  refine ⟨hne _ rfl, hne _ rfl, ?_, ?_⟩
  · simp [isLineEnd, isBreak, hne '\r' rfl, hne '\n' rfl, hne '\x85' rfl, hne '\u2028' rfl, hne '\u2029' rfl]
  · simp [isSpacing, hne '\t' rfl]

lemma IsQuoted.cons_direct (h : IsQuoted true w s) (hw : IsJoined w) (hc : isDirect c = true) :
    IsQuoted true (c :: w) (c :: s) := by
  obtain ⟨hq, hslash, hend, hspace⟩ := isDirect_cases hc
  refine h.prepend (t := [c]) (m := [c]) fun r => ?_
  by_cases hblank : isSpacing c = true
  · refine cutQuoted_blank hblank (hw.append (isFirm_quoteMark _ r)) ?_
    intro hnil
    have := List.dropWhile_eq_nil_iff.1 hnil (quoteMark true) (by simp)
    cases this
  · exact cutQuoted_char hq (fun _ => hslash) (Bool.eq_false_iff.2 hblank) hend _

lemma isFirm_slash (m : List Char) : IsFirm ('\\' :: m) := isFirm_cons.2 (by decide)

lemma exists_escape (c : Char) : ∃ t, escape c = '\\' :: t := by
  rw [escape]
  split
  · exact ⟨_, rfl⟩
  · simp only
    split_ifs
    · exact ⟨_, rfl⟩
    · exact ⟨_, rfl⟩
    · exact ⟨_, rfl⟩

lemma isFirm_escape_append (c : Char) (w : List Char) : IsFirm (escape c ++ w) := by
  obtain ⟨t, ht⟩ := exists_escape c
  rw [ht]
  exact isFirm_slash _

namespace IsDoubleText

lemma nil : IsDoubleText [] [] false :=
  ⟨nofun, [], .nil true, iff_of_true rfl rfl⟩

lemma cons_direct (h : IsDoubleText w cs lossy) (hc : isDirect c = true) :
    IsDoubleText (c :: w) (c :: cs) lossy := by
  obtain ⟨hjoined, s, hread, hs⟩ := h
  refine ⟨?_, c :: s, hread.cons_direct hjoined hc, by rw [List.cons_inj_right, hs]⟩
  by_cases hblank : isSpacing c = true
  · exact (isJoined_cons_of_isSpacing hblank).2 hjoined
  · exact (isFirm_cons.2 ⟨Bool.eq_false_iff.2 hblank, (isDirect_cases hc).2.2.1⟩).isJoined

lemma escape (h : IsDoubleText w cs lossy) (c : Char) : IsDoubleText (escape c ++ w) (c :: cs) lossy := by
  obtain ⟨-, s, hread, hs⟩ := h
  exact ⟨(isFirm_escape_append c w).isJoined, c :: s, hread.prepend (m := [c]) fun r => cutQuoted_escape c _,
    by rw [List.cons_inj_right, hs]⟩

/-- A fold, which is not read. -/
lemma folded (h : IsDoubleText w cs lossy) (hw : IsFirm w) (hn : 0 < n) :
    IsDoubleText ('\\' :: '\n' :: (List.replicate n ' ' ++ w)) cs lossy := by
  obtain ⟨-, s, hread, hs⟩ := h
  refine ⟨(isFirm_slash _).isJoined, s, fun r hr => ?_, hs⟩
  rw [List.cons_append, List.cons_append, List.append_assoc,
    cutQuoted_fold isSpacing_of_mem_replicate (hw.append (isFirm_quoteMark _ r))
      (atDocumentMark_replicate hn _)]
  exact hread r hr

lemma escapedSpace (h : IsDoubleText w cs lossy) : IsDoubleText ('\\' :: ' ' :: w) (' ' :: cs) lossy := by
  obtain ⟨-, s, hread, hs⟩ := h
  exact ⟨(isFirm_slash _).isJoined, ' ' :: s,
    hread.prepend (t := ['\\', ' ']) (m := [' ']) fun r => cutQuoted_escapedSpace _,
    by rw [List.cons_inj_right, hs]⟩

/-- A space that is folded twice. The backslash that the first fold puts before it comes before that of the
second fold, with which it stands for a backslash. -/
lemma foldedTwice (h : IsDoubleText w cs lossy) (hn : 0 < n) :
    IsDoubleText ('\\' :: '\n' :: (List.replicate n ' ' ++
      '\\' :: '\\' :: '\n' :: (List.replicate n ' ' ++ '\\' :: ' ' :: w))) (' ' :: cs) true := by
  obtain ⟨-, s, hread, -⟩ := h.escapedSpace
  have hbreak : IsQuoted true ('\n' :: (List.replicate n ' ' ++ '\\' :: ' ' :: w)) (' ' :: s) := by
    intro r hr
    have hgap : cutQuoted true
        ('\n' :: ([] ++ (List.replicate n ' ' ++ ('\\' :: ' ' :: w ++ quoteMark true :: r)))) =
        prependChars [' '] (cutQuoted true ('\\' :: ' ' :: w ++ quoteMark true :: r)) :=
      cutQuoted_breaks rfl nofun isSpacing_of_mem_replicate (isFirm_slash _) (atDocumentMark_replicate hn _)
    rw [List.cons_append, List.append_assoc]
    refine hgap.trans ?_
    rw [hread r hr]
    rfl
  have hslash : IsQuoted true ('\\' :: '\\' :: '\n' :: (List.replicate n ' ' ++ '\\' :: ' ' :: w))
      ('\\' :: ' ' :: s) :=
    hbreak.prepend (t := ['\\', '\\']) (m := ['\\']) fun r => cutQuoted_slash rfl (Nat.le_succ _)
  refine ⟨(isFirm_slash _).isJoined, '\\' :: ' ' :: s, ?_, iff_of_false (by simp) (by simp)⟩
  intro r hr
  rw [List.cons_append, List.cons_append, List.append_assoc, cutQuoted_fold isSpacing_of_mem_replicate
    ((isFirm_slash _).append (isFirm_quoteMark _ r)) (atDocumentMark_replicate hn _)]
  exact hslash r hr

end IsDoubleText

/-! ### Writing -/

/-- A pen after a fold. -/
lemma foldDouble_eq (next : Option Char) (hp : p.fresh = false) : foldDouble n next p =
    (Pen.onLine ('\\' :: p.written) n).settle.put (if next = some ' ' then ['\\'] else []) := by
  have hline : (p.put ['\\']).indent n = Pen.onLine ('\\' :: p.written) n := Pen.indent_eq_onLine (.inl hp)
  rw [foldDouble, hline]
  split_ifs <;> rfl

lemma foldDouble_fresh (next : Option Char) (hp : p.fresh = false) : (foldDouble n next p).fresh = false := by
  rw [foldDouble_eq next hp]
  rfl

lemma foldDouble_column (next : Option Char) (hp : p.fresh = false) :
    (foldDouble n next p).column = n + if next = some ' ' then 1 else 0 := by
  rw [foldDouble_eq next hp]
  split_ifs <;> rfl

lemma foldDouble_written (next : Option Char) (hp : p.fresh = false) : (foldDouble n next p).written =
    (if next = some ' ' then ['\\'] else []) ++ (List.replicate n ' ' ++ '\n' :: '\\' :: p.written) := by
  rw [foldDouble_eq next hp]
  split_ifs <;> rfl

/-- Whether an indent is so far to the right that every escape ends its line. -/
def isFar (n : ℕ) : Bool := lineWidth ≤ n

/-- Whether a text, or what is left of it, is written so that it is not read back. -/
def isLossy (n : ℕ) (fold first : Bool) (cs : List Char) : Bool :=
  fold && isFar n && hasSpacedEscape (if first then cs.tail else cs)

/-- One pen writes what is pending and a text between double quotes, and then is another one. -/
def WritesDouble (n : ℕ) (fold first : Bool) (pending cs : List Char) (p q : Pen) : Prop :=
  q.fresh = false ∧ ∃ w, q.written = w.reverse ++ (pending ++ p.written) ∧
    (pending = [] → cs.head? ≠ some ' ' → IsFirm w) ∧ IsDoubleText w cs (isLossy n fold first cs)

lemma hasSpacedEscape_cons_direct (hc : isDirect c = true) (cs : List Char) :
    hasSpacedEscape (c :: cs) = hasSpacedEscape cs := by
  rw [hasSpacedEscape, hc]
  rfl

lemma isLossy_cons_direct (hc : isDirect c = true) :
    isLossy n fold first (c :: cs) = isLossy n fold false cs := by
  cases first
  · simp only [isLossy, Bool.false_eq_true, if_false, hasSpacedEscape_cons_direct hc]
  · rfl

lemma IsFirm.of_direct (hc : isDirect c = true) (hne : c ≠ ' ') (w : List Char) : IsFirm (c :: w) :=
  isFirm_cons.2 ⟨Bool.eq_false_iff.2 fun h => hne ((isDirect_cases hc).2.2.2 h), (isDirect_cases hc).2.2.1⟩

/-- A character that is written as it is, on the line or on a new one. -/
lemma WritesDouble.cons_direct (hn : 0 < n) (hc : isDirect c = true) (hp : p.fresh = false)
    (hcolumn : n ≤ p.column + pending.length)
    (ih : ∀ pending p, p.fresh = false → n ≤ p.column + pending.length →
      WritesDouble n fold false pending cs p (writeDoubleChars n fold false pending cs p)) :
    WritesDouble n fold first pending (c :: cs) p (writeDoubleChars n fold first pending (c :: cs) p) := by
  rw [writeDoubleChars_cons, if_pos hc]
  simp only
  split
  · -- the line is folded before the character
    have hput : (p.put pending.reverse).fresh = false := hp
    obtain ⟨hfresh, w, hw, -, htext⟩ := ih [c] (foldDouble n (some c) (p.put pending.reverse))
      (foldDouble_fresh _ hput) (by rw [foldDouble_column _ hput]; omega)
    rw [WritesDouble, isLossy_cons_direct hc]
    rw [foldDouble_written _ hput] at hw
    by_cases hspace : c = ' '
    · subst hspace
      refine ⟨hfresh, _, ?_, fun _ h => absurd rfl h, htext.escapedSpace.folded (isFirm_slash _) hn⟩
      rw [hw]
      simp
    · refine ⟨hfresh, _, ?_, fun _ _ => isFirm_slash _,
        (htext.cons_direct hc).folded (.of_direct hc hspace w) hn⟩
      rw [hw, if_neg (by simpa using hspace)]
      simp
  · obtain ⟨hfresh, w, hw, -, htext⟩ := ih (c :: pending) p hp (by rw [List.length_cons]; omega)
    rw [WritesDouble, isLossy_cons_direct hc]
    refine ⟨hfresh, c :: w, by rw [hw]; simp, fun _ h => ?_, htext.cons_direct hc⟩
    exact .of_direct hc (by simpa using h) w

lemma two_le_length_escape (c : Char) : 2 ≤ (escape c).length := by
  rw [escape]
  split
  · exact Nat.le_refl 2
  · simp only
    split_ifs <;> simp

lemma opensWithSpace_of_head? (h : cs.head? ≠ some ' ') : opensWithSpace cs = false := by
  unfold opensWithSpace
  split
  · exact absurd rfl h
  · rfl

/-- If a line may be folded behind an escape that is far to the right, it is. -/
lemma isLossy_cons_of_not_fold (hc : isDirect c = false) {column : ℕ} (hcolumn : n + 2 ≤ column)
    (hfold : ¬((fold && !first && !cs.isEmpty) = true ∧ lineWidth + 1 < column)) :
    isLossy n fold first (c :: cs) = isLossy n fold false cs := by
  cases first
  · have hspace : (fold && isFar n && opensWithSpace cs) = false := by
      refine Bool.eq_false_iff.2 fun h => hfold ?_
      simp only [Bool.and_eq_true, isFar, decide_eq_true_eq] at h
      obtain ⟨⟨hallowed, hfar⟩, hspace⟩ := h
      refine ⟨?_, by omega⟩
      cases cs with
      | nil => cases hspace
      | cons d cs => rw [hallowed]; rfl
    simp only [isLossy, Bool.false_eq_true, if_false, hasSpacedEscape, hc, Bool.not_false, Bool.true_and]
    rw [Bool.and_or_distrib_left, hspace, Bool.false_or]
  · rfl

/-- A text is lossy where lines begin far to the right and a space follows an escape, unless it is at the end. -/
lemma isLossy_spaced (hc : isDirect c = false) (hne : cs ≠ []) (hfar : isFar n = true) :
    isLossy n true false (c :: ' ' :: cs) = true := by
  obtain ⟨d, cs, rfl⟩ := List.exists_cons_of_ne_nil hne
  simp [isLossy, hfar, hasSpacedEscape, hc, opensWithSpace]

lemma isLossy_spaced_of (h : cs = [] ∨ isFar n = false) :
    isLossy n true false (c :: ' ' :: cs) = isLossy n true false cs := by
  rcases h with rfl | hnear
  · simp [isLossy, hasSpacedEscape, opensWithSpace]
  · simp only [isLossy, hnear, Bool.and_false, Bool.false_and]

/-- A space behind an escape that ended its line, which is behind the backslash of this fold. Where lines begin
far to the right it is folded again, unless it is the last character. -/
lemma WritesDouble.escape_space (hn : 0 < n) (hc : isDirect c = false) (hp : p.fresh = false)
    (ih : ∀ pending p, p.fresh = false → n ≤ p.column + pending.length →
      WritesDouble n true false pending cs p (writeDoubleChars n true false pending cs p)) :
    WritesDouble n true false pending (c :: ' ' :: cs) p
      (writeDoubleChars n true false [] (' ' :: cs)
        (foldDouble n (some ' ') ((p.put pending.reverse).put (escape c)))) := by
  have hput : ((p.put pending.reverse).put (escape c)).fresh = false := hp
  generalize hq : foldDouble n (some ' ') ((p.put pending.reverse).put (escape c)) = q
  have hfresh : q.fresh = false := by rw [← hq, foldDouble_fresh _ hput]
  have hcolumn : q.column = n + 1 := by rw [← hq, foldDouble_column _ hput, if_pos rfl]
  have hwritten : q.written = '\\' :: (List.replicate n ' ' ++ '\n' :: '\\' ::
      ((escape c).reverse ++ (pending ++ p.written))) := by
    rw [← hq, foldDouble_written _ hput, if_pos rfl]
    simp
  rw [writeDoubleChars_cons, if_pos (by decide)]
  simp only [List.reverse_nil, Pen.put_nil]
  split
  · -- the space is folded again
    rename_i hfold
    obtain ⟨hfresh', w, hw, -, htext⟩ := ih [' '] (foldDouble n (some ' ') q) (foldDouble_fresh _ hfresh)
      (by rw [foldDouble_column _ hfresh]; omega)
    obtain ⟨hne, -, hwidth⟩ := hfold
    have hfar : isFar n = true := decide_eq_true (by simp [hcolumn] at hwidth; omega)
    rw [WritesDouble, isLossy_spaced hc (by simpa using hne) hfar]
    refine ⟨hfresh', _, ?_, fun _ _ => isFirm_escape_append c _, (htext.foldedTwice hn).escape c⟩
    rw [hw, foldDouble_written _ hfresh, hwritten]
    simp
  · rename_i hfold
    obtain ⟨hfresh', w, hw, -, htext⟩ := ih [' '] q hfresh (by omega)
    have hplain : cs = [] ∨ isFar n = false := by
      refine or_iff_not_imp_left.2 fun hne => decide_eq_false fun hfar => hfold ?_
      exact ⟨by simpa using hne, .inl trivial, by simp [hcolumn]; omega⟩
    rw [WritesDouble, isLossy_spaced_of hplain]
    refine ⟨hfresh', _, ?_, fun _ _ => isFirm_escape_append c _,
      (htext.escapedSpace.folded (isFirm_slash _) hn).escape c⟩
    rw [hw, hwritten]
    simp

/-- An escape, behind which the line may be folded. -/
lemma WritesDouble.cons_escape (hn : 0 < n) (hc : isDirect c = false) (hp : p.fresh = false)
    (hcolumn : n ≤ p.column + pending.length)
    (ih : ∀ ds, ds.length ≤ cs.length → ∀ pending p, p.fresh = false → n ≤ p.column + pending.length →
      WritesDouble n fold false pending ds p (writeDoubleChars n fold false pending ds p)) :
    WritesDouble n fold first pending (c :: cs) p (writeDoubleChars n fold first pending (c :: cs) p) := by
  have hput : ((p.put pending.reverse).put (escape c)).fresh = false := hp
  have hwide : n + 2 ≤ ((p.put pending.reverse).put (escape c)).column := by
    have := two_le_length_escape c
    simp only [Pen.put_column, List.length_reverse]
    omega
  rw [writeDoubleChars_cons, if_neg (by rw [hc]; exact Bool.false_ne_true)]
  simp only
  split
  · rename_i hfold
    obtain ⟨rfl, rfl⟩ : fold = true ∧ first = false := by
      have hallowed := hfold.1
      simp only [Bool.and_eq_true, Bool.not_eq_true'] at hallowed
      exact hallowed.1
    by_cases hhead : cs.head? = some ' '
    · obtain ⟨cs, rfl⟩ : ∃ ds, cs = ' ' :: ds := List.head?_eq_some_iff.1 hhead
      exact escape_space hn hc hp (ih cs (Nat.le_succ _))
    · obtain ⟨hfresh, w, hw, hwfirm, htext⟩ := ih cs (Nat.le_refl _) []
        (foldDouble n cs.head? ((p.put pending.reverse).put (escape c))) (foldDouble_fresh _ hput)
        (by rw [foldDouble_column _ hput]; omega)
      have hlossy : isLossy n true false (c :: cs) = isLossy n true false cs := by
        simp only [isLossy, Bool.false_eq_true, if_false, hasSpacedEscape, opensWithSpace_of_head? hhead,
          Bool.and_false, Bool.false_or]
      rw [WritesDouble, hlossy]
      refine ⟨hfresh, _, ?_, fun _ _ => isFirm_escape_append c _, (htext.folded (hwfirm rfl hhead) hn).escape c⟩
      rw [hw, foldDouble_written _ hput, if_neg hhead]
      simp
  · rename_i hfold
    obtain ⟨hfresh, w, hw, -, htext⟩ := ih cs (Nat.le_refl _) []
      ((p.put pending.reverse).put (escape c)) hput (by simp only [List.length_nil]; omega)
    rw [WritesDouble, isLossy_cons_of_not_fold hc hwide hfold]
    refine ⟨hfresh, _, ?_, fun _ _ => isFirm_escape_append c _, htext.escape c⟩
    rw [hw]
    simp

/-- **A text that is written between double quotes is read as it, unless it is lossy.** Behind what is pending
it is written so that it is read as some text, and as itself just if it is not lossy. -/
theorem writesDouble (hn : 0 < n) (fold first : Bool) (pending cs : List Char) (p : Pen)
    (hp : p.fresh = false) (hcolumn : n ≤ p.column + pending.length) :
    WritesDouble n fold first pending cs p (writeDoubleChars n fold first pending cs p) := by
  induction hlength : cs.length using Nat.strong_induction_on generalizing first pending cs p with
  | _ length ih =>
    cases cs with
    | nil =>
      refine ⟨hp, [], by simp [writeDoubleChars_nil], fun _ _ => nofun, ?_⟩
      cases first <;> simpa [isLossy, hasSpacedEscape] using IsDoubleText.nil
    | cons c cs =>
      have ih : ∀ ds, ds.length ≤ cs.length → ∀ pending p, p.fresh = false →
          n ≤ p.column + pending.length →
          WritesDouble n fold false pending ds p (writeDoubleChars n fold false pending ds p) :=
        fun ds hds pending p hp hcolumn =>
          ih ds.length (by rw [← hlength, List.length_cons]; omega) false pending ds p hp hcolumn rfl
      by_cases hc : isDirect c = true
      · exact .cons_direct hn hc hp hcolumn (ih cs (Nat.le_refl _))
      · exact .cons_escape hn (Bool.eq_false_iff.2 hc) hp hcolumn ih

/-- Without folds a text stays on its line. -/
lemma writeDoubleChars_line (first : Bool) (pending cs : List Char) (p : Pen) :
    writeDoubleChars n false first pending cs p = p.put (pending.reverse ++ cs.flatMap encode) := by
  induction cs generalizing first pending p with
  | nil => rw [writeDoubleChars_nil, List.flatMap_nil, List.append_nil]
  | cons c cs ih =>
    rw [writeDoubleChars_cons, List.flatMap_cons, encode]
    simp only [Bool.false_and, Bool.false_eq_true, false_and, if_false, ih]
    split_ifs
    · simp
    · simp [Pen.put_put]

/-- A character of which escapes consist. -/
def isBasic (c : Char) : Bool := 0x20 ≤ c.toNat && c.toNat ≤ 0x7e

lemma isBasic_of_mem_capitalHex {w m : ℕ} (h : c ∈ capitalHex w m) : isBasic c = true := by
  have hdigit : ∀ d < 16, isBasic (hexDigit d).toUpper = true := by decide
  induction w generalizing m with
  | zero => cases h
  | succ w ih =>
    rw [capitalHex, hex, List.map_append, List.mem_append, List.map_singleton, List.mem_singleton] at h
    rcases h with h | rfl
    · exact ih h
    · exact hdigit _ (Nat.mod_lt _ (by decide))

lemma isBasic_of_mem_escape {d : Char} (h : d ∈ escape c) : isBasic d = true := by
  have hshort : ∀ l ∈ shortEscape? c, isBasic l = true := by
    intro l hl
    unfold shortEscape? at hl
    split at hl <;> cases hl <;> rfl
  rw [escape] at h
  split at h
  · rename_i l hl
    rcases List.mem_cons.1 h with rfl | h
    · rfl
    · cases List.mem_singleton.1 h
      exact hshort _ hl
  · simp only at h
    split_ifs at h
    all_goals
      rcases List.mem_cons.1 h with rfl | h
      · rfl
      · rcases List.mem_cons.1 h with rfl | h
        · rfl
        · exact isBasic_of_mem_capitalHex h

end ApiContract.Yaml
