import ApiContract.Proofs.Yaml.Keys
import ApiContract.Proofs.Yaml.Scans

/-!
Nodes in block style, as they are written and cut into tokens. From the place where a node begins the scanner
comes to what follows the node, and has the tokens of a value that is like the node
(`isWritten_of_isNumbered`); or it does not come to the end of the text, since a key in the node is too long
with its escapes.
-/

namespace ApiContract.Yaml

open Scanner

variable {α β γ : Type} {block : Token} {c c' cols pre : List ℕ} {fresh inMapping kept kept' : Bool}
  {i j k k' : ℕ}
  {R m r t t' w : List Char} {P T : List Token} {p q : Pen} {s s' : Scanner} {v : Value} {x : α} {y : β}
  {rel : α → List Token → Prop} {rel' : β → List Token → Prop} {rel'' : γ → List Token → Prop}

/-! ### What reading leads to -/

/-- Reading leads to a text, with further tokens that are those of something: of `x` just if it is kept. If
not, it need not lead anywhere. -/
def Outcome (s : Scanner) (t : List Char) (k : ℕ) (cols : List ℕ) (T : List Token) (kept : Bool) (x : α)
    (rel : α → List Token → Prop) : Prop :=
  kept = false ∧ s.Fails ∨ ∃ s' x' T', s.Leads s' ∧ s'.Stands t k cols (T ++ T') true ∧ rel x' T' ∧
    (x' = x ↔ kept = true)

lemma Outcome.of_leads (h : Outcome s' t k cols T kept x rel) (hs : s.Leads s') :
    Outcome s t k cols T kept x rel := by
  obtain ⟨hkept, hfails⟩ | ⟨s₁, x', T', hs₁, hrest⟩ := h
  · exact .inl ⟨hkept, hfails.of_leads hs⟩
  · exact .inr ⟨s₁, x', T', hs.trans hs₁, hrest⟩

/-- Something is told by parts of it, behind some tokens. -/
lemma Outcome.map {f : α → γ} (h : Outcome s t k cols (T ++ P) kept x rel) (hf : ∀ x', f x' = f x → x' = x)
    (hrel : ∀ x' T', rel x' T' → rel'' (f x') (P ++ T')) : Outcome s t k cols T kept (f x) rel'' := by
  obtain hfails | ⟨s', x', T', hs', hstands, hx', hiff⟩ := h
  · exact .inl hfails
  · rw [List.append_assoc] at hstands
    exact .inr ⟨s', f x', P ++ T', hs', hstands, hrel x' T' hx', by rw [← hiff]; exact ⟨hf x', congrArg f⟩⟩

/-- A block ends behind its entries. -/
lemma Outcome.mapBlock {f : α → γ} (h : Outcome s t k (j :: cols) (T ++ P) kept x rel) (hk : k < j)
    (hf : ∀ x', f x' = f x → x' = x) (hrel : ∀ x' T', rel x' T' → rel'' (f x') (P ++ T' ++ [.blockEnd])) :
    Outcome s t k cols T kept (f x) rel'' := by
  obtain hfails | ⟨s', x', T', hs', hstands, hx', hiff⟩ := h
  · exact .inl hfails
  · have hclose := hstands.close hk
    rw [List.append_assoc, List.append_assoc, ← List.append_assoc P] at hclose
    exact .inr ⟨s', f x', _, hs', hclose, hrel x' T' hx', by rw [← hiff]; exact ⟨hf x', congrArg f⟩⟩

/-- One thing follows another one; together they may tell something only if something else is kept too. -/
lemma Outcome.append {f : α → β → γ} {z : γ} (kept₀ : Bool) (h : Outcome s t k cols (T ++ P) kept x rel)
    (h' : ∀ s' T', s'.Stands t k cols T' true → Outcome s' t' k' cols T' kept' y rel')
    (hf : ∀ x' y', f x' y' = z ↔ (kept₀ = true ∧ x' = x) ∧ y' = y)
    (hrel : ∀ x' y' T₁ T₂, rel x' T₁ → rel' y' T₂ → rel'' (f x' y') (P ++ (T₁ ++ T₂))) :
    Outcome s t' k' cols T (kept₀ && kept && kept') z rel'' := by
  obtain ⟨hkept, hfails⟩ | ⟨s₁, x', T₁, hs₁, hstands, hx', hiff⟩ := h
  · exact .inl ⟨by rw [hkept, Bool.and_false, Bool.false_and], hfails⟩
  · obtain ⟨hkept, hfails⟩ | ⟨s₂, y', T₂, hs₂, hstands', hy', hiff'⟩ := h' s₁ _ hstands
    · exact .inl ⟨by rw [hkept, Bool.and_false], hfails.of_leads hs₁⟩
    · have htokens : T ++ P ++ T₁ ++ T₂ = T ++ (P ++ (T₁ ++ T₂)) := by simp only [List.append_assoc]
      rw [htokens] at hstands'
      refine .inr ⟨s₂, f x' y', _, hs₁.trans hs₂, hstands', hrel x' y' T₁ T₂ hx' hy', ?_⟩
      rw [Bool.and_eq_true, Bool.and_eq_true, ← hiff, ← hiff', hf]

/-! ### Pens -/

/-- The pen writes some characters on, and is in the middle of a line. -/
def Pen.Writes (p q : Pen) (w : List Char) : Prop := q.fresh = false ∧ q.written = w.reverse ++ p.written

/-- A pen behind an indicator within an indent. -/
structure Pen.IsBehind (i : ℕ) (p : Pen) : Prop where
  apart : p.apart = false
  column : i + 1 ≤ p.column
  fresh : p.fresh = true → p.column = i + 1

/-- What comes before a block: a space if only indicators are before it, and else a new line. -/
def lineGap (fresh : Bool) (j : ℕ) : List Char := if fresh then [' '] else '\n' :: List.replicate j ' '

lemma Pen.indent_of_not_fresh (hp : p.fresh = false) (j : ℕ) :
    p.indent j = ⟨(lineGap false j).reverse ++ p.written, j, true, true⟩ := by
  rw [indent_eq_onLine (.inl hp), onLine]
  simp [lineGap]

lemma Pen.IsBehind.indent (h : p.IsBehind i) (hj : p.fresh = true → j = i + 2) :
    p.indent j = ⟨(lineGap p.fresh j).reverse ++ p.written, j, true, true⟩ := by
  cases hfresh : p.fresh with
  | false => exact indent_of_not_fresh hfresh j
  | true =>
    have hcolumn := h.fresh hfresh
    obtain rfl := hj hfresh
    rw [indent_of_fresh hfresh (.inl (by omega)), hcolumn, Nat.add_sub_add_left]
    rfl

lemma Pen.IsBehind.gap (h : p.IsBehind i) : p.gap = [' '] := by
  rw [Pen.gap, h.apart]
  rfl

/-! ### Nodes and blocks -/

/-- The characters begin an entry of a block, whatever follows them. -/
def StartsEntry (w : List Char) : Prop := ∀ m, AtToken (w ++ m) ∧ atDocumentMark (w ++ m) = false

/-- There is a gap first. -/
def StartsWithGap (w : List Char) : Prop := ∀ m, gapFollows (w ++ m) = true

/-- What is written for a value is read as one like it. -/
def Reads (i : ℕ) (inMapping fresh : Bool) (v : Value) (w : List Char) : Prop :=
  ∀ ⦃s R k t cols T b⦄, s.Between (w ++ R) (i :: cols) T b → i < s.cursor.column →
    (fresh = true → s.cursor.column = i + 1 ∧ b = true) → Follows R k t i →
    Outcome s t k (i :: cols) T (v.keeps i inMapping fresh) v (Scans inMapping v)

/-- What is written for the entries of a block is read as entries like them. -/
def ReadsBlock (block : Token) (j : ℕ) (w : List Char) (kept : Bool) (x : α) (rel : α → List Token → Prop) :
    Prop :=
  ∀ ⦃s R k t cols cols' pre T⦄, s.Stands (w ++ R) j cols T true → Opens block j cols (j :: cols') pre →
    Follows R k t j → Outcome s t k (j :: cols') (T ++ pre) kept x rel

/-- What is written for further entries, if there are any, is read as entries like them. -/
def ReadsRest (j : ℕ) (r : List Char) (kept : Bool) (x : α) (rel : α → List Token → Prop) : Prop :=
  ∀ ⦃R k t⦄, Follows R k t j → ∃ k' t', Follows (r ++ R) k' t' j ∧
    ∀ s cols T, s.Stands t' k' (j :: cols) T true → Outcome s t k (j :: cols) T kept x rel

lemma ReadsRest.nil (hrel : rel x []) : ReadsRest j [] true x rel := by
  intro R k t hR
  refine ⟨k, t, hR, fun s cols T hs => .inr ⟨s, x, [], .refl s, ?_, hrel, by simp⟩⟩
  rwa [List.append_nil]

lemma ReadsBlock.rest (h : ReadsBlock block j w kept x rel) (hw : StartsEntry w) :
    ReadsRest j (lineGap false j ++ w) kept x rel := by
  intro R k t hR
  refine ⟨j, w ++ R, ⟨by simp [lineGap], (hw R).1, ?_, Nat.le_refl j⟩, fun s cols T hs => ?_⟩
  · rcases Nat.eq_zero_or_pos j with rfl | hj
    · exact (hw R).2
    · exact atDocumentMark_replicate hj _
  · have h' := h hs (.stay cols) hR
    rwa [List.append_nil] at h'

lemma Follows.mono (h : Follows m k t i) (hij : i ≤ j) : Follows m k t j :=
  { h with le := Nat.le_trans h.le hij }

/-- The gap before a block. -/
lemma Scanner.Between.stands_lineGap {b : Bool} (h : s.Between (lineGap fresh j ++ m) cols T b)
    (hfresh : fresh = true → s.cursor.column + 1 = j ∧ b = true) (hm : AtToken m) :
    s.Stands m j cols T true := by
  cases fresh with
  | false => exact h.stands_line hm
  | true =>
    obtain ⟨hcolumn, rfl⟩ := hfresh rfl
    have hstands := h.stands_blank hm
    rwa [hcolumn] at hstands

/-! ### Nodes on the line -/

/-- A scalar is read as what its token stands for. -/
lemma Reads.scalar {token : Token} {v' : Value} (hw : ScalarText (i + 2) w token)
    (hrel : Scans inMapping v v' [token])
    (hkeep : v' = v ↔ v.keeps i inMapping fresh = true) : Reads i inMapping fresh v (' ' :: w) := by
  intro s R k t cols T b hs hcolumn _ hR
  obtain ⟨s', hleads, hstands⟩ := (hs.stands_blank (hw.atToken R)).scalar hw (by omega) (by omega) hR
  exact .inr ⟨s', v', [token], hleads, hstands, hrel, hkeep⟩

lemma startsWithGap_cons (w : List Char) : StartsWithGap (' ' :: w) := fun _ => rfl

/-- A node with characters for it. -/
def IsWritten (i : ℕ) (inMapping : Bool) (v : Value) (p : Pen) : Prop :=
  ∃ w, p.Writes (writeNode ⟨some i, inMapping, false⟩ v p) w ∧ StartsWithGap w ∧ Reads i inMapping p.fresh v w

lemma writeNode_of_isWord (h : isWord v = true) (i : ℕ) (inMapping : Bool) (p : Pen) : ∃ cs, plainText? v = some cs ∧
    writeNode ⟨some i, inMapping, false⟩ v p = writePlain (i + 2) true cs p := by
  cases v with
  | null => exact ⟨_, rfl, rfl⟩
  | bool b => cases b <;> exact ⟨_, rfl, rfl⟩
  | int n => exact ⟨_, rfl, rfl⟩
  | _ => cases h

lemma isWritten_word (h : isWord v = true) (hp : p.IsBehind i) : IsWritten i inMapping v p := by
  obtain ⟨cs, hcs, hwrite⟩ := writeNode_of_isWord h i inMapping p
  obtain ⟨hfresh, w, hw, hread, hbegin⟩ :=
    exists_writePlain (n := i + 2) (by omega) (allowsPlain_of_isWord h hcs) true p
  rw [hp.gap] at hw
  rw [IsWritten, hwrite]
  refine ⟨' ' :: w, ⟨hfresh, by rw [hw]; simp⟩, startsWithGap_cons w,
    .scalar (.plain hread hbegin) (.word h hcs) ?_⟩
  cases v <;> first | exact iff_of_true rfl rfl | cases h

lemma isWritten_text (s : String) (hp : p.IsBehind i) : IsWritten i inMapping (.str s) p := by
  obtain ⟨hfresh, w, s', token, hw, hscalar, htext, hiff⟩ :=
    exists_writeText (n := i + 2) (by omega) (Nat.succ_le_succ hp.column) s
  rw [hp.gap] at hw
  refine ⟨' ' :: w, ⟨hfresh, ?_⟩, startsWithGap_cons w, .scalar hscalar (.text htext) ?_⟩
  · refine (show _ = _ from hw).trans ?_
    simp
  · rw [Value.str.injEq, hiff, Value.keeps]

/-- A collection with nothing in it. -/
lemma isWritten_brackets {o e : Char} {t u : Token} (hmark : (o, e, t, u) ∈ brackets) (hp : p.IsBehind i)
    (hwrite : writeNode ⟨some i, inMapping, false⟩ v p =
      (p.mark [o] true true false).mark [e] false false false)
    (hrel : Scans inMapping v v [t, u]) (hkeep : v.keeps i inMapping p.fresh = true) :
    IsWritten i inMapping v p := by
  rw [IsWritten, hwrite]
  refine ⟨[' ', o, e], ⟨by simp [Pen.mark], ?_⟩, startsWithGap_cons _, ?_⟩
  · have hopen := Pen.mark_written p [o] true true false rfl
    rw [Pen.mark]
    simp [hopen, hp.gap]
  · intro s R k t cols T b hs hcolumn _ hR
    have htoken : AtToken (o :: e :: R) := by
      simp only [brackets, List.mem_cons, Prod.mk.injEq, List.not_mem_nil, or_false] at hmark
      rcases hmark with ⟨rfl, -⟩ | ⟨rfl, -⟩ <;>
        exact ⟨isFirm_cons.2 (by decide), by simp, by simp [byteOrderMark]⟩
    obtain ⟨s', hleads, hstands⟩ := (hs.stands_blank htoken).brackets hmark (by omega) hR
    exact .inr ⟨s', v, _, hleads, hstands, hrel, iff_of_true rfl hkeep⟩

/-! ### Names -/

lemma isNameChar_of_mem_nameOf (id : Identity) :
    ∀ c ∈ 'i' :: 'd' :: (padded 3 id.node).toList, isNameChar c = true := by
  have hdigit : ∀ c ∈ digits, isNameChar c = true := List.forall_iff_forall_mem.1 (by decide)
  refine List.forall_mem_cons.2 ⟨rfl, List.forall_mem_cons.2 ⟨rfl, fun c hc => ?_⟩⟩
  rw [padded, String.toList_ofList, Nat.toList_repr] at hc
  rcases List.mem_append.1 hc with hc | hc
  · rw [List.eq_of_mem_replicate hc]
    rfl
  · exact hdigit c (mem_digits_of_mem_toDigits hc)

lemma writeName_eq (sign : Char) (id : Identity) (hp : p.IsBehind i) :
    (writeName sign id p).written = (' ' :: sign :: (nameOf id).toList).reverse ++ p.written ∧
      (writeName sign id p).fresh = false ∧ (writeName sign id p).IsBehind i := by
  have hfresh : (writeName sign id p).fresh = false := by simp [writeName, Pen.mark]
  refine ⟨?_, hfresh, ⟨rfl, ?_, fun h => ?_⟩⟩
  · have hwritten := Pen.mark_written p (sign :: 'i' :: 'd' :: (padded 3 id.node).toList) true false false
      rfl
    rw [hp.gap] at hwritten
    rw [nameOf, String.toList_ofList]
    exact hwritten.trans (by simp)
  · have hcolumn := hp.column
    rw [writeName, Pen.mark]
    simp only [Pen.put_column]
    omega
  · rw [hfresh] at h
    cases h

/-- A name behind a blank. -/
lemma Scanner.Between.name {c : Char} {b : Bool} {id : Identity} {cols : List ℕ}
    (h : s.Between (' ' :: c :: ((nameOf id).toList ++ m)) (i :: cols) T b) (make : String → Token)
    (hsign : (c, make) ∈ nameSigns)
    (hcolumn : i < s.cursor.column) (hm : gapFollows m = true) : ∃ s', s.Leads s' ∧
      s'.Between m (i :: cols) (T ++ [make (nameOf id)]) false ∧ i < s'.cursor.column := by
  have htoken : AtToken (c :: ((nameOf id).toList ++ m)) := by
    simp only [nameSigns, List.mem_cons, Prod.mk.injEq, List.not_mem_nil, or_false] at hsign
    rcases hsign with ⟨rfl, -⟩ | ⟨rfl, -⟩ <;>
      exact ⟨isFirm_cons.2 (by decide), by simp, by simp [byteOrderMark]⟩
  have hname : (nameOf id).toList = 'i' :: 'd' :: (padded 3 id.node).toList := String.toList_ofList ..
  have hstands := (h.stands_blank htoken).name hsign (by rw [hname]; exact List.cons_ne_nil _ _)
    (by rw [hname]; exact isNameChar_of_mem_nameOf id) (by omega) hm
  rwa [String.ofList_toList] at hstands

lemma isWritten_again (id : Identity) (isList : Bool) (hp : p.IsBehind i) :
    IsWritten i inMapping (.again id isList) p := by
  obtain ⟨hwritten, hfresh, -⟩ := writeName_eq '*' id hp
  refine ⟨_, ⟨hfresh, hwritten⟩, startsWithGap_cons _, ?_⟩
  intro s R k t cols T b hs hcolumn _ hR
  obtain ⟨s', hleads, hbetween, -⟩ := hs.name .alias (by simp [nameSigns]) hcolumn (by rw [hR.eq]; rfl)
  rw [hR.eq] at hbetween
  exact .inr ⟨s', _, _, hleads, hbetween.stands_line hR.atToken, .again, iff_of_true rfl rfl⟩

/-- What has a name is read behind it. -/
lemma isWritten_shared (id : Identity) (hv : v.isCollection = true) (hp : p.IsBehind i)
    (h : ∀ p : Pen, p.IsBehind i → IsWritten i inMapping v p) : IsWritten i inMapping (.shared id v) p := by
  obtain ⟨hwritten, hfresh, hbehind⟩ := writeName_eq '&' id hp
  obtain ⟨w, ⟨hfresh', hw⟩, hgap, hread⟩ := h _ hbehind
  refine ⟨' ' :: '&' :: (nameOf id).toList ++ w, ⟨hfresh', ?_⟩, startsWithGap_cons _, ?_⟩
  · refine hw.trans ?_
    rw [hwritten]
    simp
  intro s R k t cols T b hs hcolumn _ hR
  have htext : ' ' :: '&' :: (nameOf id).toList ++ w ++ R =
      ' ' :: '&' :: ((nameOf id).toList ++ (w ++ R)) := by simp
  rw [htext] at hs
  obtain ⟨s', hleads, hbetween, hcolumn'⟩ := hs.name .anchor (by simp [nameSigns]) hcolumn (hgap R)
  have houtcome := hread hbetween hcolumn' (by simp [hfresh]) hR
  rw [hfresh] at houtcome
  refine Outcome.of_leads ?_ hleads
  exact houtcome.map (f := Value.shared id) (fun _ h => (Value.shared.inj h).2) fun _ _ => .shared hv

/-! ### Entries of blocks -/

/-- The pen is able to begin an entry at an indent. -/
def Pen.Begins (j : ℕ) (p : Pen) : Prop := p.indent j = ⟨(p.indent j).written, j, true, true⟩

lemma Pen.begins_of_not_fresh (hp : p.fresh = false) (j : ℕ) : p.Begins j := by
  rw [Begins, indent_of_not_fresh hp]

lemma Pen.IsBehind.begins (h : p.IsBehind i) (hj : p.fresh = true → j = i + 2) : p.Begins j := by
  rw [Begins, h.indent hj]

/-- A pen behind an indicator that begins an entry. -/
lemma isBehind_entry (written : List Char) (j : ℕ) : (⟨written, j + 1, false, true⟩ : Pen).IsBehind j :=
  ⟨rfl, Nat.le_refl _, fun _ => rfl⟩

/-- Entries with characters for them, behind the indent. -/
def BlockIsWritten (block : Token) (j : ℕ) (p q : Pen) (kept : Bool) (x : α) (rel : α → List Token → Prop) :
    Prop :=
  ∃ w, q.fresh = false ∧ q.written = w.reverse ++ (p.indent j).written ∧ StartsEntry w ∧
    ReadsBlock block j w kept x rel

/-- Further entries with characters for them. -/
def RestIsWritten (j : ℕ) (p q : Pen) (kept : Bool) (x : α) (rel : α → List Token → Prop) : Prop :=
  ∃ r, p.Writes q r ∧ ReadsRest j r kept x rel

lemma RestIsWritten.nil (hp : p.fresh = false) (hrel : rel x []) : RestIsWritten j p p true x rel :=
  ⟨[], ⟨hp, rfl⟩, .nil hrel⟩

lemma BlockIsWritten.rest (h : BlockIsWritten block j p q kept x rel) (hp : p.fresh = false) :
    RestIsWritten j p q kept x rel := by
  obtain ⟨w, hfresh, hwritten, hentry, hread⟩ := h
  refine ⟨lineGap false j ++ w, ⟨hfresh, ?_⟩, hread.rest hentry⟩
  rw [hwritten, Pen.indent_of_not_fresh hp]
  simp

lemma atToken_mark {c : Char} (hc : c ∈ ['-', '?', ':']) (hm : gapFollows m = true) :
    AtToken (c :: m) ∧ atDocumentMark (c :: m) = false := by
  simp only [List.mem_cons, List.not_mem_nil, or_false] at hc
  have htoken : AtToken (c :: m) := by
    rcases hc with rfl | rfl | rfl <;> exact ⟨isFirm_cons.2 (by decide), by simp, by simp [byteOrderMark]⟩
  refine ⟨htoken, ?_⟩
  cases m with
  | nil => rcases hc with rfl | rfl | rfl <;> simp [atDocumentMark, isDocumentMark, List.isPrefixOf]
  | cons d m =>
    have hd : '-' ≠ d := by
      rintro rfl
      cases hm
    rcases hc with rfl | rfl | rfl <;> simp [atDocumentMark, isDocumentMark, List.isPrefixOf, hd]

lemma startsEntry_mark {c : Char} (hc : c ∈ ['-', '?', ':']) (hw : StartsWithGap w) : StartsEntry (c :: w) :=
  fun m => atToken_mark hc (hw m)

/-- **An item and further ones.** -/
lemma blockIsWritten_cons_item {vs : List Value} (hp : p.Begins j)
    (hv : ∀ p : Pen, p.IsBehind j → IsWritten j false v p)
    (hvs : ∀ p : Pen, p.fresh = false →
      RestIsWritten j p (writeItems j vs p) (Value.itemsKeep j vs) vs (ScansItems vs)) :
    BlockIsWritten .blockSequence j p (writeItems j (v :: vs) p) (Value.itemsKeep j (v :: vs)) (v :: vs)
      (ScansItems (v :: vs)) := by
  have hdash : writeDash j p = ⟨'-' :: (p.indent j).written, j + 1, false, true⟩ := by
    rw [writeDash, hp]
    rfl
  obtain ⟨w, ⟨hfresh, hw⟩, hgap, hread⟩ := hv _ (isBehind_entry ('-' :: (p.indent j).written) j)
  obtain ⟨r, ⟨hfresh', hr⟩, hrest⟩ := hvs _ hfresh
  rw [BlockIsWritten, writeItems, hdash]
  refine ⟨'-' :: (w ++ r), hfresh', ?_, startsEntry_mark (by simp) fun m => ?_, ?_⟩
  · rw [hr, hw]
    simp
  · rw [List.append_assoc]
    exact hgap _
  intro s R k t cols cols' pre T hs ho hR
  obtain ⟨k', t', hR', hcontinue⟩ := hrest hR
  have htext : '-' :: (w ++ r) ++ R = '-' :: (w ++ (r ++ R)) := by simp
  rw [htext] at hs
  obtain ⟨s', hleads, hbetween, hcolumn⟩ := hs.mark (t := .entry) (by simp [blockMarks]) (hgap _) ho
  refine ((hread hbetween (by omega) (fun _ => ⟨hcolumn, rfl⟩) hR').append (f := List.cons) true
    (fun s' T' => hcontinue s' cols' T') (fun v' vs' => ?_) fun v' vs' T₁ T₂ h₁ h₂ => ?_).of_leads hleads
  · simp
  · exact .cons h₁ h₂

/-! ### Keys -/

/-- A key with what comes between it and its value, with characters for them. -/
def KeyIsWritten (j : ℕ) (k : String) (p q : Pen) : Prop :=
  q.IsBehind j ∧ q.fresh = !isSimpleKey (.str k) ∧ ∃ w, q.written = w.reverse ++ (p.indent j).written ∧
    (∀ m, StartsWithGap m → StartsEntry (w ++ m)) ∧
    ∀ ⦃s : Scanner⦄ ⦃m cols cols' pre T⦄, s.Stands (w ++ m) j cols T true →
      Opens .blockMapping j cols (j :: cols') pre →
      gapFollows m = true →
      keepsText (isSimpleKey (.str k)) (j + 2) k = false ∧ s.Fails ∨
        ∃ (s' : Scanner) (k' : String) (token : Token), s.Leads s' ∧ IsText k' token ∧
        (k' = k ↔ keepsText (isSimpleKey (.str k)) (j + 2) k = true) ∧
        s'.Between m (j :: cols') (T ++ pre ++ [.key, token, .value]) (!isSimpleKey (.str k)) ∧
        j < s'.cursor.column ∧
        ((!isSimpleKey (.str k)) = true → s'.cursor.column = j + 1)

/-- The pen behind a key. -/
def penBehindKey (j : ℕ) (k : String) (p : Pen) : Pen :=
  writeColon j (isSimpleKey (.str k))
    (writeScalar ⟨some j, true, isSimpleKey (.str k)⟩ (.str k) (writeKeyMark j (isSimpleKey (.str k)) p))

/-- A key on one line with its value. -/
lemma keyIsWritten_simple {k : String} (hp : p.Begins j) (hk : isSimpleKey (.str k) = true) :
    KeyIsWritten j k p (penBehindKey j k p) := by
  have hapart : (p.indent j).apart = true := by rw [hp]
  have hj : (p.indent j).column = j := by rw [hp]
  obtain ⟨hfresh, hcolumn, w, token, hw, hkey⟩ := exists_writeKey (n := j + 2) (by omega) hapart hk
  have hpen : penBehindKey j k p =
      (writeStyled (Style.ofText true k) (j + 2) false k.toList (p.indent j)).mark [':'] false false false := by
    rw [penBehindKey, hk]
    rfl
  rw [KeyIsWritten, hpen, hk]
  refine ⟨⟨rfl, ?_, fun h => ?_⟩, by simp [Pen.mark], w ++ [':'], ?_, fun m hm m' => ?_, ?_⟩
  · rw [Pen.mark]
    simp only [Bool.not_false, Bool.or_true, if_true, Pen.put_column, List.length_singleton]
    omega
  · simp [Pen.mark] at h
  · rw [Pen.mark]
    simp [hw]
  · have htext : w ++ [':'] ++ m ++ m' = w ++ ':' :: (m ++ m') := by simp
    rw [htext]
    exact ⟨hkey.scalar.atToken _, hkey.noMark _⟩
  intro s m cols cols' pre T hs ho hm
  rw [List.append_assoc] at hs
  have hread := hs.key hkey.scalar hkey.line hm ho (Nat.lt_add_of_pos_right (by decide)) (hkey.noMark m)
  split_ifs at hread with hlong
  · exact .inl ⟨Bool.eq_false_iff.2 fun h => absurd (hkey.kept.1 h) (by omega), hread⟩
  · obtain ⟨s', hleads, hbetween, hcolumn⟩ := hread
    exact .inr ⟨s', k, token, hleads, hkey.text, iff_of_true rfl (hkey.kept.2 (by omega)), hbetween, hcolumn,
      by simp⟩

/-- A key that is set apart from its value. -/
lemma keyIsWritten_apart {k : String} (hp : p.Begins j) (hk : isSimpleKey (.str k) = false) :
    KeyIsWritten j k p (penBehindKey j k p) := by
  have hmark : writeKeyMark j false p = ⟨'?' :: (p.indent j).written, j + 1, false, true⟩ := by
    rw [writeKeyMark, hp]
    rfl
  have hbehind := isBehind_entry ('?' :: (p.indent j).written) j
  obtain ⟨hfresh, w, k', token, hw, hscalar, htext, hiff⟩ :=
    exists_writeText (n := j + 2) (by omega) (Nat.succ_le_succ hbehind.column) k
  rw [hbehind.gap] at hw
  set q := writeStyled (Style.ofText false k) (j + 2) true k.toList
    ⟨'?' :: (p.indent j).written, j + 1, false, true⟩
  have hpen : penBehindKey j k p = ⟨':' :: ((lineGap false j).reverse ++ q.written), j + 1, false, true⟩ := by
    rw [penBehindKey, hk, hmark]
    change (q.indent j).mark [':'] true false true = _
    rw [Pen.indent_of_not_fresh hfresh]
    rfl
  rw [KeyIsWritten, hpen, hk]
  refine ⟨isBehind_entry _ j, rfl, '?' :: ' ' :: (w ++ (lineGap false j ++ [':'])), ?_, fun m hm => ?_, ?_⟩
  · simp [hw]
  · exact startsEntry_mark (w := ' ' :: (w ++ (lineGap false j ++ [':']) ++ m)) (by simp) (startsWithGap_cons _)
  intro s m cols cols' pre T hs ho hm
  obtain ⟨hcolon, hnoMark⟩ := atToken_mark (c := ':') (by simp) hm
  have htext' : '?' :: ' ' :: (w ++ (lineGap false j ++ [':'])) ++ m =
      '?' :: ' ' :: (w ++ '\n' :: (List.replicate j ' ' ++ ':' :: m)) := by simp [lineGap]
  have hR : Follows ('\n' :: (List.replicate j ' ' ++ ':' :: m)) j (':' :: m) j := by
    refine ⟨rfl, hcolon, ?_, Nat.le_refl j⟩
    rcases Nat.eq_zero_or_pos j with rfl | hj
    · exact hnoMark
    · exact atDocumentMark_replicate hj _
  rw [htext'] at hs
  obtain ⟨s₁, hleads₁, hbetween₁, hcolumn₁⟩ := hs.mark (t := .key) (by simp [blockMarks]) rfl ho
  obtain ⟨s₂, hleads₂, hstands₂⟩ :=
    (hbetween₁.stands_blank (hscalar.atToken _)).scalar hscalar (by omega) (by omega) hR
  obtain ⟨s₃, hleads₃, hbetween₃, hcolumn₃⟩ :=
    hstands₂.mark (t := .value) (by simp [blockMarks]) hm (.stay (t := .blockMapping) cols')
  have htokens : T ++ pre ++ [.key] ++ [token] ++ [] ++ [.value] = T ++ pre ++ [.key, token, .value] := by simp
  rw [htokens] at hbetween₃
  exact .inr ⟨s₃, k', token, (hleads₁.trans hleads₂).trans hleads₃, htext, hiff, hbetween₃, by omega,
    fun _ => hcolumn₃⟩

/-- **A field and further ones.** -/
lemma blockIsWritten_cons_field {k : String} {fs : List (String × Value)} (hp : p.Begins j)
    (hv : ∀ p : Pen, p.IsBehind j → IsWritten j true v p)
    (hfs : ∀ p : Pen, p.fresh = false →
      RestIsWritten j p (writeFields j fs p) (Value.fieldsKeep j fs) fs (ScansFields fs)) :
    BlockIsWritten .blockMapping j p (writeFields j ((k, v) :: fs) p) (Value.fieldsKeep j ((k, v) :: fs))
      ((k, v) :: fs)
      (ScansFields ((k, v) :: fs)) := by
  have hkey : KeyIsWritten j k p (penBehindKey j k p) := by
    cases hk : isSimpleKey (.str k) with
    | true => exact keyIsWritten_simple hp hk
    | false => exact keyIsWritten_apart hp hk
  obtain ⟨hbehind, hfreshKey, wk, hwk, hentry, hreadKey⟩ := hkey
  obtain ⟨w, ⟨hfresh, hw⟩, hgap, hread⟩ := hv _ hbehind
  obtain ⟨r, ⟨hfresh', hr⟩, hrest⟩ := hfs _ hfresh
  have hwrite : writeFields j ((k, v) :: fs) p =
      writeFields j fs (writeNode ⟨some j, true, false⟩ v (penBehindKey j k p)) := by
    rw [writeFields]
    rfl
  rw [BlockIsWritten, hwrite]
  refine ⟨wk ++ (w ++ r), hfresh', ?_, hentry _ fun m => ?_, ?_⟩
  · rw [hr, hw, hwk]
    simp
  · rw [List.append_assoc]
    exact hgap _
  intro s R n t cols cols' pre T hs ho hR
  obtain ⟨n', t', hR', hcontinue⟩ := hrest hR
  have htext : wk ++ (w ++ r) ++ R = wk ++ (w ++ (r ++ R)) := by simp
  rw [htext] at hs
  rw [hfreshKey] at hread
  obtain ⟨hkept, hfails⟩ | ⟨s', k', token, hleads, htoken, hiff, hbetween, hcolumn, hfreshColumn⟩ :=
    hreadKey hs ho (hgap _)
  · exact .inl ⟨by rw [Value.fieldsKeep, hkept]; rfl, hfails⟩
  refine .of_leads ?_ hleads
  rw [Value.fieldsKeep]
  refine (hread hbetween hcolumn (fun h => ⟨hfreshColumn h, h⟩) hR').append (f := fun v' fs' => (k', v') :: fs') _
    (fun s' T' => hcontinue s' cols' T') (fun v' fs' => ?_) fun v' fs' T₁ T₂ h₁ h₂ => .cons htoken h₁ h₂
  rw [List.cons.injEq, Prod.mk.injEq, hiff]

/-! ### All nodes -/

/-- Entries behind the gap before them. -/
lemma BlockIsWritten.exists_text (h : BlockIsWritten block j p q kept x rel) (hp : p.IsBehind i)
    (hj : p.fresh = true → j = i + 2) : ∃ w, p.Writes q (lineGap p.fresh j ++ w) ∧ StartsEntry w ∧
      ReadsBlock block j w kept x rel := by
  obtain ⟨w, hfresh, hwritten, hentry, hread⟩ := h
  refine ⟨w, ⟨hfresh, ?_⟩, hentry, hread⟩
  rw [hwritten, hp.indent hj]
  simp

lemma startsWithGap_lineGap (fresh : Bool) (j : ℕ) (w : List Char) : StartsWithGap (lineGap fresh j ++ w) := by
  intro m
  cases fresh <;> rfl

/-- A block that is indented further. -/
lemma Reads.inBlock {f : α → Value} (hw : StartsEntry w) (h : ReadsBlock block (i + 2) w kept x rel)
    (hf : ∀ x', f x' = f x → x' = x)
    (hrel : ∀ x' T', rel x' T' → Scans inMapping (f x) (f x') ([block] ++ T' ++ [.blockEnd]))
    (hkept : (f x).keeps i inMapping fresh = kept) :
    Reads i inMapping fresh (f x) (lineGap fresh (i + 2) ++ w) := by
  intro s R k t cols T b hs hcolumn hfresh hR
  rw [List.append_assoc] at hs
  have hstands := hs.stands_lineGap (fun h => ⟨by rw [(hfresh h).1], (hfresh h).2⟩) (hw R).1
  have hopens : Opens block (i + 2) (i :: cols) ((i + 2) :: i :: cols) [block] := by
    refine .start ?_
    rintro _ ⟨⟩
    omega
  rw [hkept]
  exact (h hstands hopens (hR.mono (by omega))).mapBlock (by have := hR.le; omega) hf hrel

/-- **The items of a list on their lines.** Those of the value of a field are not indented. -/
lemma isWritten_items {vs : List Value} (hne : vs ≠ []) (hp : p.IsBehind i)
    (h : ∀ j (p : Pen), p.Begins j →
      BlockIsWritten .blockSequence j p (writeItems j vs p) (Value.itemsKeep j vs) vs
      (ScansItems vs)) : IsWritten i inMapping (.list vs) p := by
  have hwrite : writeNode ⟨some i, inMapping, false⟩ (.list vs) p =
      writeItems (if inMapping ∧ ¬ p.fresh then i else i + 2) vs p := by
    cases vs with
    | nil => exact absurd rfl hne
    | cons v vs => rfl
  rw [IsWritten, hwrite]
  by_cases hflush : inMapping = true ∧ ¬ p.fresh = true
  · obtain ⟨rfl, hfresh⟩ := hflush
    have hfresh : p.fresh = false := Bool.eq_false_iff.2 hfresh
    obtain ⟨w, hw, hentry, hread⟩ :=
      (h i p (p.begins_of_not_fresh hfresh i)).exists_text hp (by rw [hfresh]; nofun)
    rw [if_pos ⟨rfl, by rw [hfresh]; nofun⟩]
    refine ⟨_, hw, startsWithGap_lineGap _ _ _, ?_⟩
    intro s R k t cols T b hs hcolumn hfreshColumn hR
    rw [List.append_assoc] at hs
    have hstands := hs.stands_lineGap (by rw [hfresh]; nofun) (hentry R).1
    have hkeep : (Value.list vs).keeps i true p.fresh = Value.itemsKeep i vs := by rw [Value.keeps, hfresh]; rfl
    rw [hkeep]
    exact (hread hstands (.stay cols) hR).map (fun _ => Value.list.inj) fun _ _ => .flush hne
  · have hj : (if inMapping && !p.fresh then i else i + 2) = i + 2 := if_neg (by simpa using hflush)
    obtain ⟨w, hw, hentry, hread⟩ := (h (i + 2) p (hp.begins fun _ => rfl)).exists_text hp fun _ => rfl
    rw [if_neg hflush]
    refine ⟨_, hw, startsWithGap_lineGap _ _ _,
      .inBlock hentry hread (fun _ => Value.list.inj) (fun _ _ => .items hne) ?_⟩
    rw [Value.keeps, hj]

/-- **The fields of a map on their lines.** -/
lemma isWritten_fields {fs : List (String × Value)} (hne : fs ≠ []) (hp : p.IsBehind i)
    (h : ∀ j (p : Pen), p.Begins j →
      BlockIsWritten .blockMapping j p (writeFields j fs p) (Value.fieldsKeep j fs) fs
      (ScansFields fs)) : IsWritten i inMapping (.map fs) p := by
  have hwrite : writeNode ⟨some i, inMapping, false⟩ (.map fs) p = writeFields (i + 2) fs p := by
    cases fs with
    | nil => exact absurd rfl hne
    | cons f fs => rfl
  rw [IsWritten, hwrite]
  obtain ⟨w, hw, hentry, hread⟩ := (h (i + 2) p (hp.begins fun _ => rfl)).exists_text hp fun _ => rfl
  exact ⟨_, hw, startsWithGap_lineGap _ _ _,
    .inBlock hentry hread (fun _ => Value.map.inj) (fun _ _ => .fields hne) rfl⟩

mutual

/-- **A node is written so that a value like it is read.** -/
theorem isWritten_of_isNumbered {f : ℤ → Bool} :
    (v : Value) → v.isNumbered f = true → ∀ (i : ℕ) (inMapping : Bool) (p : Pen),
    p.IsBehind i → IsWritten i inMapping v p
  | .null, _, _, _, _, hp | .bool _, _, _, _, _, hp | .int _, _, _, _, _, hp => isWritten_word rfl hp
  | .str s, _, _, _, _, hp => isWritten_text s hp
  | .list [], _, _, _, _, hp => isWritten_brackets (by simp [brackets]) hp rfl .noItems rfl
  | .list (v :: vs), h, _, _, _, hp =>
    isWritten_items (List.cons_ne_nil _ _) hp (blockIsWritten_items (v :: vs) h (List.cons_ne_nil _ _))
  | .map [], _, _, _, _, hp => isWritten_brackets (by simp [brackets]) hp rfl .noFields rfl
  | .map (q :: fs), h, _, _, _, hp =>
    isWritten_fields (List.cons_ne_nil _ _) hp
      (blockIsWritten_fields (q :: fs) (Bool.and_eq_true_iff.1 h).2 (List.cons_ne_nil _ _))
  | .shared id v, h, i, inMapping, _, hp =>
    have hv := Bool.and_eq_true_iff.1 h
    isWritten_shared id hv.1 hp (isWritten_of_isNumbered v hv.2 i inMapping)
  | .again id isList, _, _, _, _, hp => isWritten_again id isList hp

/-- **The items of a list are written so that items like them are read.** -/
theorem blockIsWritten_items {f : ℤ → Bool} :
    (vs : List Value) → Value.areNumbered f vs = true → vs ≠ [] → ∀ (j : ℕ) (p : Pen),
    p.Begins j → BlockIsWritten .blockSequence j p (writeItems j vs p) (Value.itemsKeep j vs) vs (ScansItems vs)
  | [], _, hne, _, _, _ => absurd rfl hne
  | v :: vs, h, _, j, p, hp => by
    obtain ⟨hv, hvs⟩ := Bool.and_eq_true_iff.1 h
    refine blockIsWritten_cons_item hp (isWritten_of_isNumbered v hv j false) fun q hq => ?_
    by_cases hrest : vs = []
    · rw [hrest]
      exact .nil hq .nil
    · exact (blockIsWritten_items vs hvs hrest j q (q.begins_of_not_fresh hq j)).rest hq

/-- **The fields of a map are written so that fields like them are read.** -/
theorem blockIsWritten_fields {f : ℤ → Bool} :
    (fs : List (String × Value)) → Value.fieldsAreNumbered f fs = true → fs ≠ [] →
    ∀ (j : ℕ) (p : Pen), p.Begins j →
      BlockIsWritten .blockMapping j p (writeFields j fs p) (Value.fieldsKeep j fs) fs (ScansFields fs)
  | [], _, hne, _, _, _ => absurd rfl hne
  | (k, v) :: fs, h, _, j, p, hp => by
    obtain ⟨hv, hfs⟩ := Bool.and_eq_true_iff.1 h
    refine blockIsWritten_cons_field hp (isWritten_of_isNumbered v hv j true) fun q hq => ?_
    by_cases hrest : fs = []
    · rw [hrest]
      exact .nil hq .nil
    · exact (blockIsWritten_fields fs hfs hrest j q (q.begins_of_not_fresh hq j)).rest hq

end

/-! ### Documents -/

/-- **The tokens of a map that is a text of its own.** They are those of a map like it, or the end of the text
is not among them; and the texts in the maps are the same just if all of them are kept. -/
theorem tokens_of_map {f : ℤ → Bool} {fs : List (String × Value)} (hne : fs ≠ [])
    (hfs : Value.fieldsAreNumbered f fs = true) :
    Value.fieldsKeep 0 fs = false ∧ .streamEnd ∉
        (Tokens.ofText ((writeNode ⟨none, false, false⟩ (.map fs) .start).indent 0).written.reverse none).list ∨
      ∃ fs' T', ScansFields fs fs' T' ∧ (fs' = fs ↔ Value.fieldsKeep 0 fs = true) ∧
        Tokens.ofText ((writeNode ⟨none, false, false⟩ (.map fs) .start).indent 0).written.reverse none =
          ⟨[.blockMapping] ++ T' ++ [.blockEnd] ++ [.streamEnd], none⟩ := by
  have hwrite : writeNode ⟨none, false, false⟩ (.map fs) .start = writeFields 0 fs .start := by
    cases fs with
    | nil => exact absurd rfl hne
    | cons f fs => rfl
  obtain ⟨w, hfresh, hw, hentry, hread⟩ := blockIsWritten_fields fs hfs hne 0 .start rfl
  have htext : ((writeFields 0 fs .start).indent 0).written.reverse = w ++ ['\n'] := by
    rw [Pen.indent_of_not_fresh hfresh, hw]
    simp [lineGap, Pen.start, Pen.indent]
  have hend : Follows ['\n'] 0 [] 0 := ⟨rfl, ⟨by simp [IsFirm], by simp, by simp⟩, rfl, Nat.le_refl 0⟩
  rw [hwrite, htext]
  obtain ⟨hkept, hfails⟩ | ⟨s', fs', T', ⟨m, hm, hrun⟩, hstands, hx', hiff⟩ :=
    hread (stands_start (hentry ['\n']).1) (.start (by simp)) hend
  · exact .inl ⟨hkept, hfails 0 _ (Nat.le_add_right _ 2)⟩
  · have hlength : (w ++ ['\n']).length + 2 = ((w ++ ['\n']).length - m) + 2 + m := by
      have hle : m ≤ (w ++ ['\n']).length := by
        have : m + s'.cursor.rest.length ≤ (w ++ ['\n']).length := hm
        omega
      omega
    obtain ⟨settled, hrun⟩ := hrun 0 ((w ++ ['\n']).length - m + 2)
    refine .inr ⟨fs', T', hx', hiff, ?_⟩
    rw [Tokens.ofText, hlength, hrun, hstands.run_end (by rintro _ ⟨⟩; rfl)]
    simp

end ApiContract.Yaml
