import ApiContract.Proofs.Except
import ApiContract.Proofs.Yaml.Plain
import ApiContract.Yaml.Token.Scan

/-!
How a scanner goes from token to token in a text in block style. `Between` says what it knows behind a token,
and `Stands` where the next one begins: the blocks that are indented further are then closed, and their ends
count as tokens. What the tokens do is told by one lemma for each of them.
-/

namespace ApiContract.Yaml

variable {b : Bool} {c : Char} {cs m t w : List Char} {k n : ℕ} {cols extra : List ℕ} {T : List Token}
  {s s' : Scanner}

/-- What follows is the end of the text, or begins a token. -/
def AtToken (cs : List Char) : Prop := IsFirm cs ∧ cs.head? ≠ some '#' ∧ cs.head? ≠ some byteOrderMark

namespace Scanner

/-- The tokens so far. -/
def tokens (s : Scanner) : List Token := s.slots.toList.flatMap Slot.tokens

/-! ### Gaps -/

lemma cutSpace_of_none (h : cutBreak (Cursor.dropComment (cs.dropWhile (· == ' '))) = none) :
    cutSpace cs = (false, Cursor.dropComment (cs.dropWhile (· == ' '))) := by
  rw [cutSpace]
  split
  · rfl
  · rename_i hsome
    rw [h] at hsome
    cases hsome

lemma cutSpace_of_some {c : Char} (h : cutBreak (Cursor.dropComment (cs.dropWhile (· == ' '))) = some (c, m)) :
    cutSpace cs = (true, (cutSpace m).2) := by
  rw [cutSpace]
  split
  · rename_i hnone
    rw [h] at hnone
    cases hnone
  · rename_i hsome
    rw [h] at hsome
    cases hsome
    rfl

lemma cutSpace_spaces (h : AtToken cs) (k : ℕ) : cutSpace (List.replicate k ' ' ++ cs) = (false, cs) := by
  have hdrop : Cursor.dropComment ((List.replicate k ' ' ++ cs).dropWhile (· == ' ')) = cs := by
    rw [dropWhile_spaces h.1, Cursor.dropComment, if_neg (by simpa using h.2.1)]
  rw [cutSpace_of_none, hdrop]
  rw [hdrop]
  exact cutBreak_eq_none fun c hc => (h.1 c hc).2

lemma cutSpace_newLine (h : AtToken cs) (k : ℕ) :
    cutSpace ('\n' :: (List.replicate k ' ' ++ cs)) = (true, cs) := by
  rw [cutSpace_of_some (c := '\n') (m := List.replicate k ' ' ++ cs), cutSpace_spaces h]
  rfl

lemma skipSpace_eq (hmark : s.cursor.rest.head? ≠ some byteOrderMark) (hdepth : s.depth = 0)
    (hcut : cutSpace s.cursor.rest = (b, cs)) :
    s.skipSpace = { s with cursor := s.cursor.moveTo cs, keyAllowed := s.keyAllowed || b } := by
  have hflow : s.inFlow = false := by simp [inFlow, hdepth]
  rw [skipSpace]
  simp only [hmark, and_false, if_false, hcut, hflow, Bool.not_false, Bool.and_true, moveTo]

/-- No gap is passed over. -/
lemma skipSpace_eq_self (hs : AtToken s.cursor.rest) : s.skipSpace = s := by
  have hcut := cutSpace_spaces hs 0
  rw [List.replicate_zero, List.nil_append] at hcut
  rw [skipSpace]
  simp only [hs.2.2, and_false, if_false, hcut, Bool.false_and, Bool.or_false, moveTo, Cursor.moveTo_self rfl]

/-! ### Where a scanner stands -/

/-- The tokens that may begin a key are on the outermost level and need not begin one. They are not behind the
cursor, and where a key is allowed they are on lines before. -/
def IsFree (s : Scanner) (line : ℕ) (allowed : Bool) : Prop :=
  ∀ p ∈ s.candidates, p.1 = 0 ∧ p.2.isRequired = false ∧ p.2.line ≤ line ∧ (allowed = true → p.2.line < line)

/-- A scanner behind a token, in a block: what is left, the columns of the blocks, the tokens, and whether a
key is allowed. -/
structure Between (s : Scanner) (cs : List Char) (cols : List ℕ) (T : List Token) (b : Bool) : Prop where
  rest : s.cursor.rest = cs
  depth : s.depth = 0
  columns : s.columns = cols
  tokens : s.tokens = T
  allowed : s.keyAllowed = b
  free : s.IsFree s.cursor.line b
  unfinished : .streamEnd ∉ T

/-- A scanner that has a token next, at a column. Of the blocks inside of those in question it is known that
they are indented further, so their ends count as tokens already. -/
structure Stands (s : Scanner) (cs : List Char) (k : ℕ) (cols : List ℕ) (T : List Token) (b : Bool) : Prop where
  rest : s.skipSpace.cursor.rest = cs
  column : s.skipSpace.cursor.column = k
  depth : s.depth = 0
  columns : ∃ inner, s.columns = inner ++ cols ∧ (∀ c ∈ inner, k < c) ∧
    s.tokens ++ List.replicate inner.length .blockEnd = T
  allowed : s.skipSpace.keyAllowed = b
  free : s.IsFree s.skipSpace.cursor.line b
  unfinished : .streamEnd ∉ T

/-- A scanner that is about to cut off the next token, at a column. -/
structure Ready (s : Scanner) (cs : List Char) (k : ℕ) (cols : List ℕ) (T : List Token) (b : Bool) : Prop
    extends Between s cs cols T b where
  column : s.cursor.column = k
  noCandidate : b = true → s.candidates = []

lemma IsFree.next_line {line : ℕ} (h : s.IsFree line b) {line' : ℕ} (hline : line < line') (b' : Bool) :
    s.IsFree line' b' := by
  intro p hp
  obtain ⟨h₁, h₂, h₃, -⟩ := h p hp
  exact ⟨h₁, h₂, by omega, fun _ => by omega⟩

/-- Whatever the gap before the next token is. -/
lemma Between.stands_of_cut {b' : Bool} {index line : ℕ} (h : s.Between m cols T b)
    (hmark : m.head? ≠ some byteOrderMark) (hcut : cutSpace m = (b', cs))
    (hcursor : s.cursor.moveTo cs = ⟨cs, index, line, k⟩) (hfree : s.IsFree line (b || b')) :
    s.Stands cs k cols T (b || b') := by
  have hskip := skipSpace_eq (by rwa [h.rest]) h.depth
    (show cutSpace s.cursor.rest = (b', cs) by rwa [h.rest])
  rw [hcursor, h.allowed] at hskip
  refine ⟨by rw [hskip], by rw [hskip], h.depth, ⟨[], h.columns, nofun, ?_⟩, by rw [hskip], ?_, h.unfinished⟩
  · rw [h.tokens]
    exact List.append_nil _
  · rw [hskip]
    exact hfree

/-- No gap before the next token. -/
lemma Between.stands (h : s.Between cs cols T b) (hcs : AtToken cs) : s.Stands cs s.cursor.column cols T b := by
  have hcursor : s.cursor.moveTo cs = ⟨cs, s.cursor.index, s.cursor.line, s.cursor.column⟩ := by
    rw [Cursor.moveTo_self h.rest, ← h.rest]
  have hfree := h.free
  rw [← Bool.or_false b] at hfree ⊢
  exact h.stands_of_cut hcs.2.2 (cutSpace_spaces hcs 0) hcursor hfree

/-- A blank before the next token. -/
lemma Between.stands_blank (h : s.Between (' ' :: cs) cols T b) (hcs : AtToken cs) :
    s.Stands cs (s.cursor.column + 1) cols T b := by
  have hblank : ∀ ch ∈ [' '], Cursor.TakesColumn ch := List.forall_mem_singleton.2 ⟨rfl, by decide⟩
  have hfree := h.free
  rw [← Bool.or_false b] at hfree ⊢
  exact h.stands_of_cut (by simp [byteOrderMark]) (cutSpace_spaces hcs 1)
    (Cursor.moveTo_of_takesColumn (w := [' ']) h.rest hblank) hfree

/-- A new line before the next token. -/
lemma Between.stands_line (h : s.Between ('\n' :: (List.replicate k ' ' ++ cs)) cols T b) (hcs : AtToken cs) :
    s.Stands cs k cols T true := by
  have hfree := h.free.next_line (Nat.lt_succ_self _) (b || true)
  rw [← Bool.or_true b]
  exact h.stands_of_cut (by simp [byteOrderMark]) (cutSpace_newLine hcs k) (Cursor.moveTo_newLine h.rest) hfree

/-- A block ends where the next token is not indented as far. -/
lemma Stands.close {j : ℕ} (h : s.Stands cs k (j :: cols) T b) (hk : k < j) :
    s.Stands cs k cols (T ++ [.blockEnd]) b := by
  obtain ⟨inner, hcols, hinner, htokens⟩ := h.columns
  refine { h with columns := ⟨inner ++ [j], by rw [hcols]; simp, ?_, ?_⟩, unfinished := by simp [h.unfinished] }
  · exact List.forall_mem_append.2 ⟨hinner, List.forall_mem_singleton.2 hk⟩
  · rw [← htokens, List.length_append, List.length_singleton, List.replicate_succ', List.append_assoc]

/-! ### Steps -/

/-- From one scanner the tokens are those from another one, which is so many tokens further on. -/
def Leads (s s' : Scanner) : Prop :=
  ∃ m, m + s'.cursor.rest.length ≤ s.cursor.rest.length ∧
    ∀ settled n, ∃ settled', run none settled (n + m) s = run none settled' n s'

/-- From a scanner the end of the text is not reached. -/
def Fails (s : Scanner) : Prop :=
  ∀ settled n, s.cursor.rest.length ≤ n → .streamEnd ∉ (run none settled n s).list

lemma Leads.refl (s : Scanner) : s.Leads s := ⟨0, by omega, fun settled _ => ⟨settled, rfl⟩⟩

lemma Leads.trans {s₁ s₂ s₃ : Scanner} (h : s₁.Leads s₂) (h' : s₂.Leads s₃) : s₁.Leads s₃ := by
  obtain ⟨m, hm, hrun⟩ := h
  obtain ⟨m', hm', hrun'⟩ := h'
  refine ⟨m' + m, by omega, fun settled n => ?_⟩
  obtain ⟨settled₂, h₂⟩ := hrun settled (n + m')
  obtain ⟨settled₃, h₃⟩ := hrun' settled₂ n
  exact ⟨settled₃, by rw [← Nat.add_assoc, h₂, h₃]⟩

lemma Fails.of_leads (h : s'.Fails) (hs : s.Leads s') : s.Fails := by
  obtain ⟨m, hm, hrun⟩ := hs
  intro settled n hn
  obtain ⟨n, rfl⟩ := Nat.exists_eq_add_of_le' (show m ≤ n by omega)
  obtain ⟨settled', heq⟩ := hrun settled n
  rw [heq]
  exact h settled' n (by omega)

lemma not_mem_ofSlots {n : ℕ} {fault : Option Fault} (h : .streamEnd ∉ s.tokens) :
    .streamEnd ∉ (Tokens.ofSlots s.slots n fault).list := by
  intro hmem
  obtain ⟨slot, hslot, ht⟩ := List.mem_flatMap.1 hmem
  exact h (List.mem_flatMap.2 ⟨slot, List.mem_of_mem_take hslot, ht⟩)

lemma mem_tokens_of_isDone (h : s.isDone = true) : .streamEnd ∈ s.tokens := by
  obtain ⟨slot, hslot, ht⟩ := Option.map_eq_some_iff.1 (eq_of_beq h)
  have hmem : slot ∈ s.slots.toList := Array.mem_toList_iff.2 (Array.mem_of_back? hslot)
  exact List.mem_flatMap.2 ⟨slot, hmem, by rw [Slot.tokens, ht]; simp⟩

/-- The scanner without the tokens that can begin a key no more. -/
def refreshed (s : Scanner) : Scanner := { s with candidates := s.candidates.filter fun p => !s.isStale p.2 }

lemma dropStale_eq (h : ∀ p ∈ s.candidates, s.isStale p.2 = true → p.2.isRequired = false) :
    s.dropStale = .ok s.refreshed := by
  rw [dropStale, if_neg]
  · rfl
  · simpa only [List.any_eq_true, Bool.and_eq_true, not_exists, not_and, Bool.not_eq_true] using h

/-- The scanner where the next token is cut off. -/
def atNext (s : Scanner) : Scanner :=
  s.refreshed.skipSpace.refreshed.closeBlocks s.refreshed.skipSpace.refreshed.cursor.column

lemma skipSpace_refreshed (s : Scanner) :
    s.refreshed.skipSpace = { s.skipSpace with candidates := s.refreshed.candidates } := rfl

lemma IsFree.dropStale {line : ℕ} (h : s.IsFree line b) : s.dropStale = .ok s.refreshed :=
  dropStale_eq fun p hp _ => (h p hp).2.1

lemma IsFree.dropStale_skipSpace {line : ℕ} (h : s.IsFree line b) :
    s.refreshed.skipSpace.dropStale = .ok s.refreshed.skipSpace.refreshed :=
  dropStale_eq fun p hp _ => (h p (List.mem_of_mem_filter hp)).2.1

lemma closeBlocks_eq {inner : List ℕ} {column : ℕ} (hdepth : s.depth = 0) (hcolumns : s.columns = inner ++ cols)
    (hinner : ∀ c ∈ inner, column < c) (hcols : ∀ c ∈ cols.head?, c ≤ column) : s.closeBlocks column =
      { s with
        slots := s.slots ++ Array.replicate inner.length ⟨[], .blockEnd⟩
        columns := cols } := by
  have hflow : s.inFlow = false := by simp [inFlow, hdepth]
  have hpos : ∀ c ∈ inner, decide ((column : ℤ) < (c : ℤ)) = true := fun c hc => by
    simpa using hinner c hc
  have hstop : ∀ c ∈ cols.head?, decide ((column : ℤ) < (c : ℤ)) = false := fun c hc => by
    simpa using hcols c hc
  rw [closeBlocks, hflow, if_neg Bool.false_ne_true, hcolumns]
  simp only [takeWhile_append_of_head? hpos hstop, dropWhile_append_of_head? hpos hstop]

lemma tokens_append_replicate {slots : Array Slot} (n : ℕ) (t : Token) :
    (slots ++ Array.replicate n (⟨[], t⟩ : Slot)).toList.flatMap Slot.tokens =
      slots.toList.flatMap Slot.tokens ++ List.replicate n t := by
  rw [Array.toList_append, List.flatMap_append, Array.toList_replicate]
  congr 1
  induction n with
  | zero => rfl
  | succ n ih => rw [List.replicate_succ, List.flatMap_cons, ih, List.replicate_succ]; rfl

lemma Stands.atNext (h : s.Stands cs k cols T b) (hcols : ∀ c ∈ cols.head?, c ≤ k) :
    s.atNext.Ready cs k cols T b := by
  obtain ⟨inner, hinner, hless, htokens⟩ := h.columns
  have hcolumn : s.refreshed.skipSpace.refreshed.cursor.column = k := h.column
  have heq : s.atNext = _ := closeBlocks_eq (s := s.refreshed.skipSpace.refreshed) h.depth hinner
    (fun c hc => hcolumn ▸ hless c hc) (fun c hc => hcolumn ▸ hcols c hc)
  rw [heq]
  refine ⟨⟨h.rest, h.depth, rfl, ?_, h.allowed, ?_, h.unfinished⟩, h.column, fun hb => ?_⟩
  · rw [← htokens]
    exact tokens_append_replicate _ _
  · exact fun p hp => h.free p (List.mem_of_mem_filter (List.mem_of_mem_filter hp))
  · refine List.filter_eq_nil_iff.2 fun p hp => ?_
    have hline := (h.free p (List.mem_of_mem_filter hp)).2.2.2 hb
    have hstale : s.refreshed.skipSpace.isStale p.2 = true := by
      simp [isStale, skipSpace_refreshed, Nat.ne_of_lt hline]
    simp [hstale]

/-- **A step cuts off the next token.** -/
lemma run_succ (hdrop : s.dropStale = .ok s.refreshed)
    (hdrop' : s.refreshed.skipSpace.dropStale = .ok s.refreshed.skipSpace.refreshed)
    (htokens : .streamEnd ∉ s.tokens)
    (settled n : ℕ) : run none settled (n + 1) s = match s.atNext.fetchToken with
      | .ok next => run none s.refreshed.settled n next
      | .error e => .ofSlots s.slots s.refreshed.settled (some e) := by
  have hdone : s.refreshed.isDone = false := Bool.eq_false_iff.2 fun hd => htokens (mem_tokens_of_isDone hd)
  have hstep : s.refreshed.step = s.atNext.fetchToken := by
    rw [step, hdrop']
    rfl
  rw [run, hdrop]
  simp only [hdone, Bool.false_eq_true, if_false, stepBefore, hstep]
  cases s.atNext.fetchToken <;> rfl

/-- The step leads to a scanner that has less text left. -/
lemma leads_of_fetchToken (hdrop : s.dropStale = .ok s.refreshed)
    (hdrop' : s.refreshed.skipSpace.dropStale = .ok s.refreshed.skipSpace.refreshed)
    (htokens : .streamEnd ∉ s.tokens)
    (hfetch : s.atNext.fetchToken = .ok s') (hlength : s'.cursor.rest.length < s.cursor.rest.length) :
    s.Leads s' := by
  refine ⟨1, by omega, fun settled n => ⟨s.refreshed.settled, ?_⟩⟩
  rw [run_succ hdrop hdrop' htokens, hfetch]

lemma Stands.length_le (h : s.Stands cs k cols T b) : cs.length ≤ s.cursor.rest.length := by
  rw [← h.rest]
  exact Cursor.length_rest_advance _ _

lemma Stands.not_mem_tokens (h : s.Stands cs k cols T b) : .streamEnd ∉ s.tokens := by
  obtain ⟨inner, -, -, hT⟩ := h.columns
  exact fun hmem => h.unfinished (hT ▸ List.mem_append_left _ hmem)

/-- A token that is cut off leads further. -/
lemma Stands.leads (h : s.Stands cs k cols T b) (hfetch : s.atNext.fetchToken = .ok s')
    (hlength : s'.cursor.rest.length < cs.length) : s.Leads s' :=
  leads_of_fetchToken h.free.dropStale h.free.dropStale_skipSpace h.not_mem_tokens hfetch
    (Nat.lt_of_lt_of_le hlength h.length_le)

/-! ### Marks of blocks -/

/-- A token at a column stays in a block there, or begins one with another token, where blocks are at some
columns. -/
inductive Opens (t : Token) (k : ℕ) : List ℕ → List ℕ → List Token → Prop where
  | stay (cols : List ℕ) : Opens t k (k :: cols) (k :: cols) []
  | start {cols : List ℕ} (h : ∀ c ∈ cols.head?, c < k) : Opens t k cols (k :: cols) [t]

lemma Opens.le {t : Token} {cols' : List ℕ} {pre : List Token} (h : Opens t k cols cols' pre) :
    ∀ c ∈ cols.head?, c ≤ k := by
  cases h with
  | stay cols => rintro _ ⟨⟩; exact Nat.le_refl k
  | start h => exact fun c hc => Nat.le_of_lt (h c hc)

lemma Opens.not_mem {t u : Token} {cols' : List ℕ} {pre : List Token} (h : Opens t k cols cols' pre)
    (ht : u ≠ t) :
    u ∉ pre := by
  cases h with
  | stay => exact List.not_mem_nil
  | start => simpa using ht

lemma tokens_push (slots : Array Slot) (t : Token) :
    (slots.push ⟨[], t⟩).toList.flatMap Slot.tokens = slots.toList.flatMap Slot.tokens ++ [t] := by
  rw [Array.toList_push, List.flatMap_append]
  rfl

lemma Opens.openColumn {t : Token} {cols' : List ℕ} {pre : List Token} (h : Opens t k cols cols' pre)
    (hs : s.columns = cols) : s.openColumn k = none ∧ cols' = cols ∧ pre = [] ∨
      s.openColumn k = some cols' ∧ pre = [t] := by
  cases h with
  | stay cols =>
    refine .inl ⟨?_, rfl, rfl⟩
    rw [Scanner.openColumn, indent, hs, if_neg (by simp)]
  | start hlt =>
    refine .inr ⟨?_, rfl⟩
    have hindent : s.indent < (k : ℤ) := by
      rw [indent, hs]
      cases cols with
      | nil => simp only; omega
      | cons c cols => simpa using hlt c rfl
    rw [Scanner.openColumn, if_pos hindent, hs]

lemma Ready.openBlock {t : Token} {cols' : List ℕ} {pre : List Token} (h : s.Ready cs k cols T b)
    (ho : Opens t k cols cols' pre) (ht : t ≠ .streamEnd) : (s.openBlock t).Ready cs k cols' (T ++ pre) b := by
  rw [Scanner.openBlock, h.column]
  obtain ⟨hopen, rfl, rfl⟩ | ⟨hopen, rfl⟩ := ho.openColumn h.columns
  · rw [hopen, List.append_nil]
    exact h
  · rw [hopen]
    refine ⟨⟨h.rest, h.depth, rfl, ?_, h.allowed, h.free, ?_⟩, h.column, h.noCandidate⟩
    · rw [tokens, ← h.tokens]
      exact tokens_push _ _
    · simp [h.unfinished, ht.symm]

lemma advance_of_takesColumn (h : s.cursor.rest = c :: cs) (hc : Cursor.TakesColumn c) :
    s.cursor.advance 1 = ⟨cs, s.cursor.index + 1, s.cursor.line, s.cursor.column + 1⟩ := by
  rw [Cursor.advance, h]
  exact Cursor.after_of_takesColumn hc _ _

/-- A mark that is passed over and is a token. -/
lemma Ready.mark {t : Token} (h : s.Ready (c :: cs) k cols T b) (hc : Cursor.TakesColumn c)
    (ht : t ≠ .streamEnd) (b' : Bool) :
    ({ s with keyAllowed := b', candidates := [] }.mark 1 t).Between cs cols (T ++ [t]) b' ∧
      ({ s with keyAllowed := b', candidates := [] }.mark 1 t).cursor.column = k + 1 := by
  have hcursor := advance_of_takesColumn h.rest hc
  refine ⟨⟨?_, h.depth, h.columns, ?_, rfl, List.forall_mem_nil _, ?_⟩, ?_⟩
  · exact congrArg Cursor.rest hcursor
  · rw [tokens, ← h.tokens]
    exact tokens_push _ _
  · simp [h.unfinished, ht.symm]
  · exact (congrArg Cursor.column hcursor).trans (congrArg (· + 1) h.column)

/-- A mark that stands where a key may stand. -/
lemma Ready.fetchBlockMark {block t : Token} {cols' : List ℕ} {pre : List Token}
    (h : s.Ready (c :: cs) k cols T true) (hc : Cursor.TakesColumn c) (ho : Opens block k cols cols' pre)
    (hblock : block ≠ .streamEnd) (ht : t ≠ .streamEnd) (b' : Bool) :
    ∃ s', s.fetchBlockMark block t b' = .ok s' ∧
      s'.Between cs cols' (T ++ pre ++ [t]) b' ∧ s'.cursor.column = k + 1 := by
  have hflow : s.inFlow = false := by simp [inFlow, h.depth]
  have hready := h.openBlock ho hblock
  have hdrop : { s.openBlock block with keyAllowed := b' }.dropCandidate =
      .ok { s.openBlock block with keyAllowed := b', candidates := [] } := by
    rw [dropCandidate, hready.noCandidate rfl]
    rfl
  refine ⟨_, ?_, hready.mark hc ht b'⟩
  rw [Scanner.fetchBlockMark, hflow, h.allowed]
  simp only [Bool.not_true, Bool.and_false, Bool.false_eq_true, if_false, hdrop]
  rfl

/-- The marks that begin an entry of a block, with the tokens that they are, and that a new block begins with.
-/
def blockMarks : List (Char × Token × Token) :=
  [('-', .blockSequence, .entry), ('?', .blockMapping, .key), (':', .blockMapping, .value)]

lemma fetchToken_of_mem_blockMarks {block t : Token} (hmark : (c, block, t) ∈ blockMarks)
    (h : s.Ready (c :: cs) k cols T true) (hgap : gapFollows cs = true) :
    s.fetchToken = s.fetchBlockMark block t true := by
  have hflow : s.inFlow = false := by simp [inFlow, h.depth]
  have hnoMark (d : Char) (hd : d = '-' ∨ d = '.') : isDocumentMark d (c :: cs) = false := by
    cases cs with
    | nil => simp [isDocumentMark, List.isPrefixOf]
    | cons e cs =>
      have hne : d ≠ e := by
        rintro rfl
        rcases hd with rfl | rfl <;> cases hgap
      simp [isDocumentMark, List.isPrefixOf, hne]
  rw [fetchToken, h.rest]
  simp only [hnoMark _ (.inl rfl), hnoMark _ (.inr rfl), hgap, hflow, Bool.and_false, Bool.false_or,
    Bool.not_false]
  simp only [blockMarks, List.mem_cons, Prod.mk.injEq, List.not_mem_nil, or_false] at hmark
  rcases hmark with ⟨rfl, rfl, rfl⟩ | ⟨rfl, rfl, rfl⟩ | ⟨rfl, rfl, rfl⟩
  · simp
  · simp
  · simp [fetchValue, h.noCandidate, hflow]

/-- **A mark of a block begins an entry of it.** -/
theorem Stands.mark {block t : Token} {cols' : List ℕ} {pre : List Token}
    (h : s.Stands (c :: cs) k cols T true) (hmark : (c, block, t) ∈ blockMarks) (hgap : gapFollows cs = true)
    (ho : Opens block k cols cols' pre) :
    ∃ s', s.Leads s' ∧ s'.Between cs cols' (T ++ pre ++ [t]) true ∧ s'.cursor.column = k + 1 := by
  have hready := h.atNext ho.le
  have hmem : Cursor.TakesColumn c ∧ block ≠ .streamEnd ∧ t ≠ .streamEnd := by
    simp only [blockMarks, List.mem_cons, Prod.mk.injEq, List.not_mem_nil, or_false] at hmark
    rcases hmark with ⟨rfl, rfl, rfl⟩ | ⟨rfl, rfl, rfl⟩ | ⟨rfl, rfl, rfl⟩
    · exact ⟨⟨rfl, by decide⟩, by decide, by decide⟩
    · exact ⟨⟨rfl, by decide⟩, by decide, by decide⟩
    · exact ⟨⟨rfl, by decide⟩, by decide, by decide⟩
  obtain ⟨s', hs', hbetween, hcolumn⟩ := hready.fetchBlockMark hmem.1 ho hmem.2.1 hmem.2.2 true
  refine ⟨s', h.leads ?_ ?_, hbetween, hcolumn⟩
  · rw [fetchToken_of_mem_blockMarks hmark hready hgap, hs']
  · rw [hbetween.rest]
    exact Nat.lt_succ_self _

/-! ### Tokens that may begin a key -/

/-- The next token as one that may begin a key. -/
def candidate (s : Scanner) : Candidate :=
  ⟨s.slots.size, s.cursor.index, s.cursor.line, s.cursor.column, s.indent == s.cursor.column⟩

/-- The scanner with the next token among those that may begin a key, if one is allowed. -/
def marked (s : Scanner) (b : Bool) : Scanner :=
  { s with candidates := if b then [(0, s.candidate)] else s.candidates }

lemma dropCandidate_eq_self (h : ∀ p ∈ s.candidates, p.1 ≠ s.depth) : s.dropCandidate = .ok s := by
  have hall : s.candidates.filter (·.1 != s.depth) = s.candidates :=
    List.filter_eq_self.2 fun p hp => bne_iff_ne.2 (h p hp)
  rw [dropCandidate, if_neg, hall]
  simp only [List.any_eq_true, Bool.and_eq_true, beq_iff_eq, not_exists, not_and]
  exact fun p hp heq => absurd heq (h p hp)

lemma Ready.addCandidate (h : s.Ready cs k cols T b) : s.addCandidate = .ok (s.marked b) := by
  have hflow : s.inFlow = false := by simp [inFlow, h.depth]
  rw [Scanner.addCandidate, h.allowed]
  cases b with
  | false => rfl
  | true =>
    have hdrop : s.dropCandidate = .ok s := dropCandidate_eq_self (by simp [h.noCandidate rfl])
    have hone : (s.depth, s.candidate) :: s.candidates = [(0, s.candidate)] := by
      rw [h.depth, h.noCandidate rfl]
    rw [if_pos rfl, hdrop, hflow]
    exact congrArg (fun ps => Except.ok { s with candidates := ps }) hone

lemma indent_ne_of_lt (hs : s.columns = cols) (hcols : ∀ c ∈ cols.head?, c < k) :
    (s.indent == (k : ℤ)) = false := by
  rw [indent, hs]
  cases cols with
  | nil => simp only [beq_eq_false_iff_ne, ne_eq]; omega
  | cons c cols =>
    have hc := hcols c rfl
    simp only [beq_eq_false_iff_ne, ne_eq]
    omega

/-- A token that is indented further than the blocks need not begin a key. -/
lemma Ready.isFree_marked (h : s.Ready cs k cols T b) (hcols : ∀ c ∈ cols.head?, c < k) {line : ℕ}
    (hline : s.cursor.line ≤ line) : (s.marked b).IsFree line false := by
  intro p hp
  cases b with
  | false =>
    obtain ⟨h₁, h₂, h₃, -⟩ := h.free p hp
    exact ⟨h₁, h₂, by omega, nofun⟩
  | true =>
    cases List.mem_singleton.1 hp
    refine ⟨rfl, ?_, hline, nofun⟩
    rw [candidate, h.column]
    exact indent_ne_of_lt h.columns hcols

lemma fetchCut_of_eq {cut : List Char → Cut} {t : Token} {r : List Char}
    (h : cut (s.cursor.rest.drop 1) = .ok (t, r)) : s.fetchCut cut = .ok ((s.push t).moveTo r) := by
  rw [fetchCut, h]
  rfl

/-- A token that is cut off one character after the position, and may begin a key. -/
lemma Ready.fetchName {cut : List Char → Cut} {t : Token} {r : List Char}
    (h : s.Ready (c :: (w ++ r)) k cols T b)
    (hcut : cut (w ++ r) = .ok (t, r)) (ht : t ≠ .streamEnd) (hcols : ∀ c ∈ cols.head?, c < k) :
    ∃ s', s.fetchName cut = .ok s' ∧ s'.Between r cols (T ++ [t]) false ∧
      ((∀ ch ∈ c :: w, isLineEnd ch = false) → k ≤ s'.cursor.column) := by
  have hrest : s.cursor.rest = (c :: w) ++ r := h.rest
  have hfetch : s.fetchName cut = .ok ({ s.marked b with keyAllowed := false }.push t |>.moveTo r) := by
    rw [Scanner.fetchName, h.addCandidate]
    refine fetchCut_of_eq ?_
    change cut (s.cursor.rest.drop 1) = .ok (t, r)
    rw [h.rest]
    exact hcut
  refine ⟨_, hfetch, ⟨Cursor.moveTo_rest hrest, h.depth, h.columns, ?_, rfl, ?_, ?_⟩, fun hline => ?_⟩
  · rw [← h.tokens]
    exact tokens_push _ _
  · exact h.isFree_marked hcols (Cursor.line_le_moveTo hrest)
  · simp [h.unfinished, ht.symm]
  · rw [← h.column]
    exact Cursor.column_le_moveTo hrest hline

end Scanner

/-! ### Scalars -/

/-- A text that begins as a plain scalar may begin, whatever follows it. -/
def BeginsPlain (w : List Char) : Prop :=
  ∃ c rest, w = c :: rest ∧ isSpacing c = false ∧ isLineEnd c = false ∧ c ≠ byteOrderMark ∧
    "#,[]\x7b\x7d&*!|>'\"%@`".toList.contains c = false ∧
    (c = '?' ∨ c = ':' ∨ c = '-' → ∃ d rest', rest = d :: rest' ∧ isSpacing d = false ∧ isLineEnd d = false)

/-- What is written for a scalar whose further lines have an indent, and the token that it is. -/
inductive ScalarText (n : ℕ) : List Char → Token → Prop where
  | quoted (double : Bool) {w s : List Char} (h : IsQuoted double w s) :
    ScalarText n (quoteMark double :: (w ++ [quoteMark double])) (.scalar (String.ofList s) false)
  | plain {w cs : List Char} (h : IsPlainText n w cs) (hbegin : BeginsPlain w) :
    ScalarText n w (.scalar (String.ofList cs) true)

lemma BeginsPlain.atToken (h : BeginsPlain w) (m : List Char) : AtToken (w ++ m) := by
  obtain ⟨c, rest, rfl, hspace, hend, hmark, hspecial, -⟩ := h
  refine ⟨isFirm_cons.2 ⟨hspace, hend⟩, ?_, ?_⟩
  · rintro ⟨⟩
    simp at hspecial
  · rintro ⟨⟩
    exact hmark rfl

lemma ScalarText.atToken {token : Token} (h : ScalarText n w token) (m : List Char) : AtToken (w ++ m) := by
  cases h with
  | quoted double => cases double <;>
    exact ⟨isFirm_cons.2 (by decide), by simp [quoteMark], by simp [quoteMark, byteOrderMark]⟩
  | plain _ hbegin => exact hbegin.atToken m

/-- What follows a node: a new line, not indented further than the block, with the end of the text or a token.
-/
structure Follows (m : List Char) (k : ℕ) (t : List Char) (i : ℕ) : Prop where
  eq : m = '\n' :: (List.replicate k ' ' ++ t)
  atToken : AtToken t
  noMark : atDocumentMark (List.replicate k ' ' ++ t) = false
  le : k ≤ i

lemma Follows.head?_ne {i : ℕ} (h : Follows m k t i) : ∀ c ∈ m.head?, c ≠ '\'' := by
  rw [h.eq]
  rintro _ ⟨⟩
  decide

namespace Scanner

lemma fetchToken_quoteMark {double : Bool} (h : s.Ready (quoteMark double :: cs) k cols T b) :
    s.fetchToken = s.fetchName (cutQuotedScalar double) := by
  rw [fetchToken, h.rest]
  cases double <;> simp [quoteMark, isDocumentMark, List.isPrefixOf]

lemma fetchToken_plain (h : s.Ready (w ++ m) k cols T b) (hw : BeginsPlain w)
    (hmark : k = 0 → atDocumentMark (w ++ m) = false) : s.fetchToken = s.fetchPlain := by
  have hflow : s.inFlow = false := by simp [inFlow, h.depth]
  obtain ⟨c, rest, rfl, hspace, hend, -, hspecial, hsecond⟩ := hw
  have hmargin (d : Char) (hd : d = '-' ∨ d = '.') :
      (s.cursor.column == 0 && isDocumentMark d (c :: (rest ++ m))) = false := by
    by_cases hk : k = 0
    · have hnone := hmark hk
      simp only [atDocumentMark, List.cons_append, Bool.or_eq_false_iff] at hnone
      rcases hd with rfl | rfl
      · rw [hnone.1, Bool.and_false]
      · rw [hnone.2, Bool.and_false]
    · rw [h.column, beq_false_of_ne hk, Bool.false_and]
  have hgap (hc : c = '?' ∨ c = ':' ∨ c = '-') : gapFollows (rest ++ m) = false := by
    obtain ⟨d, rest', rfl, hd, hd'⟩ := hsecond hc
    simp [gapFollows, hd, hd']
  have hsign (d : Char) (hd : d = '?' ∨ d = ':' ∨ d = '-') :
      (c == d && gapFollows (rest ++ m)) = false := by
    by_cases hc : c = d
    · rw [hgap (hc ▸ hd), Bool.and_false]
    · rw [beq_false_of_ne hc, Bool.false_and]
  have hbegins : s.beginsPlain c (rest ++ m) = true := by
    by_cases hc : c = '?' ∨ c = ':' ∨ c = '-'
    · rw [beginsPlain, hgap hc, hflow]
      rcases hc with rfl | rfl | rfl <;> simp
    · simp only [not_or] at hc
      obtain ⟨h₁, h₂, h₃⟩ := hc
      simp at hspecial
      simp [beginsPlain, hspace, hend, hspecial, h₁, h₂, h₃]
  have hat : (s.cursor.column == 0 && c == '%') = false := by
    have hc : c ≠ '%' := by rintro rfl; simp at hspecial
    rw [beq_false_of_ne hc, Bool.and_false]
  simp at hspecial
  rw [fetchToken, h.rest]
  simp only [List.cons_append, hmargin _ (.inl rfl), hmargin _ (.inr rfl), hsign _ (.inl rfl),
    hsign _ (.inr (.inl rfl)), hsign _ (.inr (.inr rfl)), hbegins, hflow, hat, Bool.false_or]
  simp [hspecial]

lemma cutQuotedScalar_eq {double : Bool} {text m : List Char} (h : IsQuoted double w text)
    (hm : ∀ c ∈ m.head?, c ≠ '\'') : cutQuotedScalar double (w ++ quoteMark double :: m) =
      .ok (.scalar (String.ofList text) false, m) := by
  have htoken : quotedToken (text.map .char) = .scalar (String.ofList text) false := by
    rw [quotedToken, Text.wholeText_map_char]
  rw [cutQuotedScalar, h m hm, ← htoken]
  rfl

/-- The plain scalar at the position. -/
lemma Ready.fetchPlain {text r : List Char} {broken : Bool} (h : s.Ready (w ++ m) k cols T b)
    (hw : IsPlainText n w text) (hn : s.indent < n) (hk : s.indent ≤ k)
    (hm : EndsPlain (s.indent + 1) m r broken) :
    s.fetchPlain = .ok { (s.marked b).push (.scalar (String.ofList text) true) with
      cursor := s.cursor.moveTo r, keyAllowed := broken } := by
  have hcut : cutPlain s.inFlow (s.indent + 1) s.cursor = ⟨text, s.cursor.moveTo r, broken⟩ := by
    have hflow : s.inFlow = false := by simp [inFlow, h.depth]
    rw [cutPlain, hflow, h.rest]
    exact hw s.cursor m r [] (s.indent + 1) false broken _ h.rest (by omega) (by rw [h.column]; omega) hm
      (Nat.le_refl _)
  rw [Scanner.fetchPlain, h.addCandidate]
  change Except.ok { (s.marked b).push
    (.scalar (String.ofList (cutPlain s.inFlow (s.indent + 1) s.cursor).text) true) with
    cursor := (cutPlain s.inFlow (s.indent + 1) s.cursor).after
    keyAllowed := (cutPlain s.inFlow (s.indent + 1) s.cursor).broken } = _
  rw [hcut]

/-- A plain scalar that ends with its line. -/
lemma Ready.stands_plain {text : List Char} {i k' : ℕ} (h : s.Ready (w ++ m) k (i :: cols) T b)
    (hw : IsPlainText n w text) (hn : i < n) (hk : i < k) (hm : Follows m k' t i) :
    ∃ s', s.fetchPlain = .ok s' ∧ s'.cursor.rest = t ∧
      s'.Stands t k' (i :: cols) (T ++ [.scalar (String.ofList text) true]) true := by
  have hcols : ∀ c ∈ (i :: cols).head?, c < k := by rintro _ ⟨⟩; exact hk
  have hindent : s.indent = i := by rw [indent, h.columns]
  have hends : EndsPlain (s.indent + 1) m t true := by
    rw [hm.eq, hindent]
    exact .line hm.atToken.1 hm.noMark (by have := hm.le; omega)
  have hrest : s.cursor.rest = w ++ '\n' :: (List.replicate k' ' ' ++ t) := by rw [h.rest, hm.eq]
  obtain ⟨hline, hcolumn⟩ := Cursor.moveTo_line hrest
  have hbetween : ({ (s.marked b).push (.scalar (String.ofList text) true) with
      cursor := s.cursor.moveTo t, keyAllowed := true } : Scanner).Between t (i :: cols)
      (T ++ [.scalar (String.ofList text) true]) true := by
    refine ⟨?_, h.depth, h.columns, ?_, rfl, ?_, by simp [h.unfinished]⟩
    · exact Cursor.moveTo_rest (w := w ++ '\n' :: List.replicate k' ' ') (by rw [hrest]; simp)
    · rw [← h.tokens]
      exact tokens_push _ _
    · exact (h.isFree_marked hcols (Nat.le_refl _)).next_line hline true
  have hstands := hbetween.stands hm.atToken
  rw [show _ = k' from hcolumn] at hstands
  exact ⟨_, h.fetchPlain hw (by omega) (by omega) hends, hbetween.rest, hstands⟩

/-- **A scalar that is a value.** -/
theorem Stands.scalar {i : ℕ} {token : Token} {k' : ℕ} (h : s.Stands (w ++ m) k (i :: cols) T b)
    (hw : ScalarText n w token) (hn : i < n) (hk : i < k) (hm : Follows m k' t i) :
    ∃ s', s.Leads s' ∧ s'.Stands t k' (i :: cols) (T ++ [token]) true := by
  have hcols : ∀ c ∈ (i :: cols).head?, c < k := by rintro _ ⟨⟩; exact hk
  have hready := h.atNext fun c hc => Nat.le_of_lt (hcols c hc)
  cases hw with
  | quoted double hread =>
    rename_i w text
    have heq : quoteMark double :: (w ++ [quoteMark double]) ++ m =
        quoteMark double :: ((w ++ [quoteMark double]) ++ m) := rfl
    have hcut := cutQuotedScalar_eq hread hm.head?_ne
    rw [show w ++ quoteMark double :: m = (w ++ [quoteMark double]) ++ m by simp] at hcut
    rw [heq] at hready h
    obtain ⟨s', hs', hbetween, -⟩ := hready.fetchName hcut (by nofun) hcols
    refine ⟨s', h.leads ((fetchToken_quoteMark hready).trans hs') ?_, ?_⟩
    · rw [hbetween.rest]
      simp only [List.length_cons, List.length_append]
      omega
    · rw [hm.eq] at hbetween
      exact hbetween.stands_line hm.atToken
  | plain hread hbegin =>
    obtain ⟨s', hs', hrest, hstands⟩ := hready.stands_plain hread hn hk hm
    refine ⟨s', h.leads ((fetchToken_plain hready hbegin (by omega)).trans hs') ?_, hstands⟩
    rw [hrest, hm.eq]
    simp only [List.length_cons, List.length_append]
    omega

/-! ### Names -/

/-- The signs before names, with the tokens that names are. -/
def nameSigns : List (Char × (String → Token)) := [('*', .alias), ('&', .anchor)]

lemma fetchToken_of_mem_nameSigns {make : String → Token} (hsign : (c, make) ∈ nameSigns)
    (h : s.Ready (c :: cs) k cols T b) : s.fetchToken = s.fetchName (cutAnchor make) := by
  simp only [nameSigns, List.mem_cons, Prod.mk.injEq, List.not_mem_nil, or_false] at hsign
  rw [fetchToken, h.rest]
  rcases hsign with ⟨rfl, rfl⟩ | ⟨rfl, rfl⟩ <;> simp [isDocumentMark, List.isPrefixOf]

lemma isNameChar_of_gap (h : isSpacing c = true ∨ isLineEnd c = true) : isNameChar c = false := by
  simp only [isSpacing, isLineEnd, isBreak, Bool.or_eq_true, beq_iff_eq, or_assoc] at h
  rcases h with rfl | rfl | rfl | rfl | rfl | rfl | rfl <;> rfl

lemma cutAnchor_eq (make : String → Token) (hne : w ≠ []) (hw : ∀ c ∈ w, isNameChar c = true)
    (hm : gapFollows m = true) : cutAnchor make (w ++ m) = .ok (make (String.ofList w), m) := by
  have hstop : ∀ c ∈ m.head?, isNameChar c = false := by
    cases m with
    | nil => exact nofun
    | cons c m =>
      rintro _ ⟨⟩
      exact isNameChar_of_gap (by simpa [gapFollows] using hm)
  rw [cutAnchor]
  simp only [takeWhile_append_of_head? hw hstop, dropWhile_append_of_head? hw hstop, anchorEnds, hm,
    Bool.true_or, Bool.and_true]
  rw [if_pos (by simpa using hne)]

/-- A name behind its sign. -/
theorem Stands.name {i : ℕ} {make : String → Token} (h : s.Stands (c :: (w ++ m)) k (i :: cols) T b)
    (hsign : (c, make) ∈ nameSigns) (hne : w ≠ []) (hw : ∀ c ∈ w, isNameChar c = true) (hk : i < k)
    (hm : gapFollows m = true) : ∃ s', s.Leads s' ∧
      s'.Between m (i :: cols) (T ++ [make (String.ofList w)]) false ∧ i < s'.cursor.column := by
  have hcols : ∀ c ∈ (i :: cols).head?, c < k := by rintro _ ⟨⟩; exact hk
  have hready := h.atNext fun c hc => Nat.le_of_lt (hcols c hc)
  have hproper : make (String.ofList w) ≠ .streamEnd ∧ isLineEnd c = false := by
    simp only [nameSigns, List.mem_cons, Prod.mk.injEq, List.not_mem_nil, or_false] at hsign
    rcases hsign with ⟨rfl, rfl⟩ | ⟨rfl, rfl⟩ <;> exact ⟨nofun, rfl⟩
  obtain ⟨s', hs', hbetween, hcolumn⟩ :=
    hready.fetchName (cutAnchor_eq make hne hw hm) hproper.1 hcols
  refine ⟨s', h.leads ((fetchToken_of_mem_nameSigns hsign hready).trans hs') ?_, hbetween, ?_⟩
  · rw [hbetween.rest]
    simp only [List.length_cons, List.length_append]
    omega
  · refine Nat.lt_of_lt_of_le hk (hcolumn (List.forall_mem_cons.2 ⟨hproper.2, fun ch hch => ?_⟩))
    refine Bool.eq_false_iff.2 fun hend => ?_
    have hnot := isNameChar_of_gap (.inr hend)
    rw [hw ch hch] at hnot
    cases hnot

/-! ### Collections with nothing in them -/

/-- The marks around a collection in brackets, with the tokens that they are. -/
def brackets : List (Char × Char × Token × Token) :=
  [('[', ']', .openSequence, .closeSequence), ('\x7b', '\x7d', .openMapping, .closeMapping)]

lemma fetchToken_of_mem_brackets {o e : Char} {t u : Token} (hmark : (o, e, t, u) ∈ brackets) :
    (s.cursor.rest = o :: cs → s.fetchToken = s.fetchOpen t) ∧
      (s.cursor.rest = e :: cs → s.fetchToken = s.fetchClose u) := by
  simp only [brackets, List.mem_cons, Prod.mk.injEq, List.not_mem_nil, or_false] at hmark
  rcases hmark with ⟨rfl, rfl, rfl, rfl⟩ | ⟨rfl, rfl, rfl, rfl⟩
  · constructor <;> intro h <;> rw [fetchToken, h] <;> simp [isDocumentMark, List.isPrefixOf]
  · constructor <;> intro h <;> rw [fetchToken, h] <;> simp [isDocumentMark, List.isPrefixOf]

lemma takesColumn_of_mem_brackets {o e : Char} {x y : Token} (hmark : (o, e, x, y) ∈ brackets) :
    Cursor.TakesColumn o ∧ Cursor.TakesColumn e ∧ x ≠ .streamEnd ∧ y ≠ .streamEnd ∧
      ∀ m, AtToken (e :: m) := by
  simp only [brackets, List.mem_cons, Prod.mk.injEq, List.not_mem_nil, or_false] at hmark
  rcases hmark with ⟨rfl, rfl, rfl, rfl⟩ | ⟨rfl, rfl, rfl, rfl⟩
  · exact ⟨⟨rfl, by decide⟩, ⟨rfl, by decide⟩, nofun, nofun,
      fun m => ⟨isFirm_cons.2 (by decide), by simp, by simp [byteOrderMark]⟩⟩
  · exact ⟨⟨rfl, by decide⟩, ⟨rfl, by decide⟩, nofun, nofun,
      fun m => ⟨isFirm_cons.2 (by decide), by simp, by simp [byteOrderMark]⟩⟩

/-- A scanner behind a bracket, on the level inside of it: what is left, the columns of the blocks around it, and
the tokens. -/
structure Inside (s : Scanner) (cs : List Char) (cols : List ℕ) (T : List Token) : Prop where
  rest : s.cursor.rest = cs
  depth : s.depth = 1
  columns : s.columns = cols
  tokens : s.tokens = T
  free : s.IsFree s.cursor.line false
  unfinished : .streamEnd ∉ T

/-- The bracket that opens. -/
lemma Ready.fetchOpen {x : Token} (h : s.Ready (c :: cs) k cols T b) (hc : Cursor.TakesColumn c)
    (hx : x ≠ .streamEnd) (hcols : ∀ c ∈ cols.head?, c < k) :
    ∃ s', s.fetchOpen x = .ok s' ∧ s'.Inside cs cols (T ++ [x]) := by
  have hcursor := advance_of_takesColumn h.rest hc
  refine ⟨{ (s.marked b).mark 1 x with depth := s.depth + 1, keyAllowed := true }, ?_,
    congrArg Cursor.rest hcursor, congrArg (· + 1) h.depth, h.columns, ?_, ?_, by simp [h.unfinished, hx.symm]⟩
  · rw [Scanner.fetchOpen, h.addCandidate]
    rfl
  · rw [← h.tokens]
    exact tokens_push _ _
  · exact h.isFree_marked hcols (congrArg Cursor.line hcursor).ge

/-- Within brackets no blocks end. -/
lemma Inside.atNext (h : s.Inside cs cols T) (hcs : AtToken cs) : s.atNext.Inside cs cols T := by
  have hflow : s.refreshed.refreshed.inFlow = true := by simp [inFlow, refreshed, h.depth]
  have heq : s.atNext = s.refreshed.refreshed := by
    rw [Scanner.atNext, skipSpace_eq_self (s := s.refreshed) (by rw [← h.rest] at hcs; exact hcs), closeBlocks,
      hflow, if_pos rfl]
  rw [heq]
  exact { h with free := fun p hp => h.free p (List.mem_of_mem_filter (List.mem_of_mem_filter hp)) }

/-- The bracket that closes. -/
lemma Inside.fetchClose {y : Token} (h : s.Inside (c :: cs) cols T) (hc : Cursor.TakesColumn c)
    (hy : y ≠ .streamEnd) : ∃ s', s.fetchClose y = .ok s' ∧ s'.Between cs cols (T ++ [y]) false := by
  have hcursor := advance_of_takesColumn h.rest hc
  have hline : (s.cursor.advance 1).line = s.cursor.line := by rw [hcursor]
  have hkeep : s.dropCandidate = .ok s := dropCandidate_eq_self fun p hp => by
    rw [(h.free p hp).1, h.depth]
    decide
  refine ⟨{ s.mark 1 y with depth := s.depth - 1, keyAllowed := false }, ?_,
    congrArg Cursor.rest hcursor, congrArg (· - 1) h.depth, h.columns, ?_, rfl, ?_,
    by simp [h.unfinished, hy.symm]⟩
  · rw [Scanner.fetchClose, hkeep]
    rfl
  · rw [← h.tokens]
    exact tokens_push _ _
  · have hfree := h.free
    rw [← hline] at hfree
    exact hfree

lemma Inside.leads (h : s.Inside cs cols T) (hfetch : s.atNext.fetchToken = .ok s')
    (hlength : s'.cursor.rest.length < cs.length) : s.Leads s' :=
  leads_of_fetchToken h.free.dropStale h.free.dropStale_skipSpace (h.tokens ▸ h.unfinished) hfetch
    (h.rest ▸ hlength)

/-- **Brackets with nothing between them.** -/
theorem Stands.brackets {i k' : ℕ} {o e : Char} {x y : Token} (h : s.Stands (o :: e :: m) k (i :: cols) T b)
    (hmark : (o, e, x, y) ∈ brackets) (hk : i < k) (hm : Follows m k' t i) :
    ∃ s', s.Leads s' ∧ s'.Stands t k' (i :: cols) (T ++ [x, y]) true := by
  have hcols : ∀ c ∈ (i :: cols).head?, c < k := by rintro _ ⟨⟩; exact hk
  have hready := h.atNext fun c hc => Nat.le_of_lt (hcols c hc)
  obtain ⟨ho, he, hx, hy, hnext⟩ := takesColumn_of_mem_brackets hmark
  obtain ⟨s₁, hopen, hinside⟩ := hready.fetchOpen ho hx hcols
  have hinside' := hinside.atNext (hnext m)
  obtain ⟨s₂, hclose, hbetween⟩ := hinside'.fetchClose he hy
  have hleads : s.Leads s₁ := by
    refine h.leads (((fetchToken_of_mem_brackets hmark).1 hready.rest).trans hopen) ?_
    rw [hinside.rest]
    exact Nat.lt_succ_self _
  have hleads' : s₁.Leads s₂ := by
    refine hinside.leads (((fetchToken_of_mem_brackets hmark).2 hinside'.rest).trans hclose) ?_
    rw [hbetween.rest]
    exact Nat.lt_succ_self _
  refine ⟨s₂, hleads.trans hleads', ?_⟩
  rw [List.append_assoc, hm.eq] at hbetween
  exact hbetween.stands_line hm.atToken

/-! ### The beginning and the end -/

lemma stands_start (hcs : AtToken cs) : (start cs).Stands cs 0 [] [] true :=
  Between.stands ⟨rfl, rfl, rfl, rfl, rfl, nofun, List.not_mem_nil⟩ hcs

/-- **At the end of the text all blocks end.** -/
theorem Stands.run_end (h : s.Stands [] 0 cols T true) (hcols : ∀ c ∈ cols.head?, c = 0) (settled n : ℕ) :
    run none settled (n + 2) s = ⟨T ++ List.replicate cols.length .blockEnd ++ [.streamEnd], none⟩ := by
  have hready := h.atNext fun c hc => (hcols c hc).le
  set q := s.atNext
  set q' : Scanner :=
    { q with slots := (q.slots ++ Array.replicate cols.length (⟨[], .blockEnd⟩ : Slot)).push ⟨[], .streamEnd⟩
             columns := []
             keyAllowed := false
             candidates := [] } with hq'
  have hclose : q.closeBlocks (-1) =
      { q with slots := q.slots ++ Array.replicate cols.length ⟨[], .blockEnd⟩, columns := [] } := by
    have hall : ∀ c ∈ cols, decide ((-1 : ℤ) < (c : ℤ)) = true :=
      fun c _ => by simp only [decide_eq_true_eq]; omega
    have hflow : q.inFlow = false := by simp [inFlow, hready.depth]
    rw [closeBlocks, hflow, if_neg Bool.false_ne_true, hready.columns, List.takeWhile_eq_self_iff.2 hall,
      List.dropWhile_eq_nil_iff.2 hall]
  have hfetch : q.fetchToken = .ok q' := by
    have hdrop : (q.closeBlocks (-1)).dropCandidate = .ok (q.closeBlocks (-1)) :=
      dropCandidate_eq_self (by rw [hclose]; simp [hready.noCandidate rfl])
    rw [fetchToken, hready.rest, fetchEnd, atMargin, hdrop, hclose]
    rfl
  have htokens : q'.tokens = T ++ List.replicate cols.length .blockEnd ++ [.streamEnd] := by
    rw [← hready.tokens]
    exact (tokens_push _ _).trans (congrArg (· ++ [Token.streamEnd]) (tokens_append_replicate _ _))
  have hdone : q'.isDone = true := by simp [isDone, hq']
  rw [run_succ h.free.dropStale h.free.dropStale_skipSpace h.not_mem_tokens, hfetch]
  simp only
  rw [run, show q'.dropStale = .ok q' from rfl]
  simp only [hdone, if_true, Tokens.ofSlots, ← htokens, tokens, ← Array.length_toList, List.take_length]

end Scanner

end ApiContract.Yaml
