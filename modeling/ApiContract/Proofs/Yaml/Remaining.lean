import ApiContract.Proofs.Except
import ApiContract.Yaml.Node
import Mathlib.Data.List.Infix

/-!
What is left of tokens. The steps that make a node only take tokens from the front (`nodesTake`), so that a
document comes to its end only where the end is among the tokens (`streamEnd_mem_of_onlyDocument`).
-/

namespace ApiContract.Yaml.Compose

variable {α β : Type} {x : Compose α} {s s' : Composer}

lemma exists_of_bind {f : α → Compose β} {b : β} (h : (x >>= f) s = .ok (b, s')) :
    ∃ a s₁, x s = .ok (a, s₁) ∧ f a s₁ = .ok (b, s') := by
  obtain ⟨⟨a, s₁⟩, ha, hb⟩ := bind_eq_ok_iff.1 (show x s >>= (fun p => f p.1 p.2) = .ok (b, s') from h)
  exact ⟨a, s₁, ha, hb⟩

/-- Steps only take tokens from the front. -/
def Takes (x : Compose α) : Prop := ∀ ⦃s a s'⦄, x s = .ok (a, s') → s'.tokens <:+ s.tokens

namespace Takes

lemma pure (a : α) : Takes (pure a) := by
  rintro s _ _ ⟨⟩
  exact List.suffix_refl _

lemma throw (e : Fault) : Takes (throw e : Compose α) := nofun

lemma bind {f : α → Compose β} (h : Takes x) (hf : ∀ a, Takes (f a)) : Takes (x >>= f) := by
  intro s b s' hrun
  obtain ⟨a, s₁, ha, hb⟩ := exists_of_bind hrun
  exact (hf a hb).trans (h ha)

lemma ite {c : Prop} [Decidable c] {y : Compose α} (h : Takes x) (h' : Takes y) :
    Takes (if c then x else y) := by
  split_ifs
  · exact h
  · exact h'

lemma get : Takes get := by
  rintro s _ _ ⟨⟩
  exact List.suffix_refl _

lemma modify {f : Composer → Composer} (h : ∀ s, (f s).tokens <:+ s.tokens) : Takes (modify f) := by
  rintro s _ _ ⟨⟩
  exact h s

/-- One of two steps, and then others. -/
lemma either {c : Prop} [Decidable c] {y : Compose α} {f : α → Compose β} (hx : Takes x) (hy : Takes y)
    (hf : ∀ a, Takes (f a)) : Takes (if c then x >>= f else y >>= f) :=
  ite (hx.bind hf) (hy.bind hf)

lemma peek : Takes peek := by
  refine get.bind fun s => ?_
  split
  · exact pure _
  · exact throw _

lemma drop : Takes drop := modify fun s => List.drop_suffix 1 s.tokens

lemma accept (t : Token) : Takes (accept t) := peek.bind fun _ => .ite (drop.bind fun _ => pure _) (pure _)

lemma expect (t : Token) : Takes (expect t) := (accept t).bind fun _ => .ite (throw _) (pure _)

lemma isNext (ts : List Token) : Takes (isNext ts) := peek.bind fun _ => pure _

lemma number : Takes number := by
  refine get.bind fun s => ?_
  exact (modify fun _ => by exact List.suffix_refl _).bind fun _ => pure _

lemma anchor? : Takes anchor? := by
  refine peek.bind fun t => ?_
  split
  · exact drop.bind fun _ => pure _
  · exact pure _

lemma tag? : Takes tag? := by
  refine peek.bind fun t => ?_
  split
  · exact drop.bind fun _ => pure _
  · exact pure _

lemma fullTag (t : Option String × String) : Takes (fullTag t) := by
  unfold Compose.fullTag
  split
  · exact pure _
  · refine get.bind fun s => ?_
    split
    · exact pure _
    · exact throw _

lemma properties : Takes properties := by
  have htag (t : Option String × String) : Takes (some <$> Compose.fullTag t) :=
    (fullTag t).bind fun _ => pure _
  refine anchor?.bind fun first => tag?.bind fun tag => ?_
  cases tag with
  | none => cases first <;> exact (pure none).bind fun _ => (pure none).bind fun _ => pure _
  | some t =>
    cases first with
    | none => exact anchor?.bind fun _ => (htag t).bind fun _ => pure _
    | some name => exact (pure none).bind fun _ => (htag t).bind fun _ => pure _

lemma name (name : Option String) (n : Node) : Takes (Compose.bind name n) := by
  cases name with
  | none => exact pure _
  | some name =>
    exact get.bind fun s => ite (throw _) (modify fun _ => List.suffix_refl _)

lemma rename (name : Option String) (n : Node) : Takes (rebind name n) := by
  cases name with
  | none => exact pure _
  | some name => exact (modify fun _ => by exact List.suffix_refl _).bind fun _ => pure _

end Takes

variable {k : ℕ}

/-- The steps that read nodes with some fuel only take tokens from the front. -/
structure NodesTake (k : ℕ) : Prop where
  node : ∀ block flush, Takes (node block flush k)
  blockItems : Takes (blockItems k)
  flushItems : Takes (flushItems k)
  blockEntries : Takes (blockEntries k)
  flowItems : ∀ first, Takes (flowItems first k)
  flowEntries : ∀ first, Takes (flowEntries first k)

namespace NodesTake

lemma succ_node (h : NodesTake k) (block flush : Bool) : Takes (Compose.node block flush (k + 1)) := by
  rw [Compose.node]
  refine Takes.peek.bind fun t => ?_
  split
  · refine Takes.drop.bind fun _ => Takes.get.bind fun s => ?_
    split
    · exact .pure _
    · exact .throw _
  · refine Takes.properties.bind fun p => Takes.number.bind fun i => ?_
    dsimp only
    have hsequence {items : Compose (List Node)} (h : Takes items) : Takes (do
        bind p.name (.again i true)
        rebind p.name (.sequence i (kindTag p "seq") (← items))) :=
      (Takes.name _ _).bind fun _ => h.bind fun _ => Takes.rename _ _
    have hmapping {entries : Compose (List (Node × Node))} (h : Takes entries) : Takes (do
        bind p.name (.again i false)
        rebind p.name (.mapping i (kindTag p "map") (← entries))) :=
      (Takes.name _ _).bind fun _ => h.bind fun _ => Takes.rename _ _
    refine Takes.peek.bind fun t => ?_
    split
    · exact hsequence h.flushItems
    · exact Takes.drop.bind fun _ => (Takes.name _ _).bind fun _ => .pure _
    · exact Takes.drop.bind fun _ => (Takes.name _ _).bind fun _ => .pure _
    · exact hsequence (Takes.drop.bind fun _ => h.flowItems true)
    · exact hmapping (Takes.drop.bind fun _ => h.flowEntries true)
    · exact hsequence (Takes.drop.bind fun _ => h.blockItems)
    · exact hmapping (Takes.drop.bind fun _ => h.blockEntries)
    · exact .ite ((Takes.name _ _).bind fun _ => .pure _) (.throw _)

lemma succ_blockItems (h : NodesTake k) : Takes (Compose.blockItems (k + 1)) := by
  rw [Compose.blockItems]
  refine (Takes.accept _).bind fun _ => .ite ?_ ((Takes.expect _).bind fun _ => .pure _)
  exact (Takes.isNext _).bind fun _ =>
    .either (.pure _) (h.node _ _) fun _ => h.blockItems.bind fun _ => .pure _

lemma succ_flushItems (h : NodesTake k) : Takes (Compose.flushItems (k + 1)) := by
  rw [Compose.flushItems]
  refine (Takes.accept _).bind fun _ => .ite ?_ (.pure _)
  exact (Takes.isNext _).bind fun _ =>
    .either (.pure _) (h.node _ _) fun _ => h.flushItems.bind fun _ => .pure _

/-- The value behind a key. -/
lemma value (h : NodesTake k) (ts : List Token) (block flush : Bool) {f : Node → Compose β}
    (hf : ∀ n, Takes (f n)) :
    Takes (do
      let value ← if ← accept .value then if ← isNext ts then pure .empty else Compose.node block flush k
        else pure .empty
      f value) := by
  refine (Takes.accept _).bind fun _ => .ite ?_ ((Takes.pure _).bind hf)
  exact (Takes.isNext _).bind fun _ => .either (.pure _) (h.node _ _) hf

lemma succ_blockEntries (h : NodesTake k) : Takes (Compose.blockEntries (k + 1)) := by
  rw [Compose.blockEntries]
  refine (Takes.accept _).bind fun _ => .ite ?_ ((Takes.expect _).bind fun _ => .pure _)
  refine (Takes.isNext _).bind fun _ => .either (.pure _) (h.node _ _) fun key => ?_
  exact h.value _ _ _ fun _ => h.blockEntries.bind fun _ => .pure _

/-- A comma, if something comes before it. -/
lemma comma (first : Bool) {f : Unit → Compose β} (hf : ∀ u, Takes (f u)) :
    Takes (if !first then expect .comma >>= f else f ()) :=
  .ite ((Takes.expect _).bind hf) (hf ())

lemma succ_flowItems (h : NodesTake k) (first : Bool) : Takes (Compose.flowItems first (k + 1)) := by
  rw [Compose.flowItems]
  refine (Takes.accept _).bind fun _ => .ite (.pure _) (comma first fun _ => ?_)
  refine (Takes.accept _).bind fun _ => .ite ?_ ?_
  · refine (Takes.isNext _).bind fun _ => .either (.pure _) (h.node _ _) fun key => ?_
    exact h.value _ _ _ fun _ => Takes.number.bind fun _ => (h.flowItems _).bind fun _ => .pure _
  · exact (Takes.accept _).bind fun _ => .ite (.pure _)
      ((h.node _ _).bind fun _ => (h.flowItems _).bind fun _ => .pure _)

lemma succ_flowEntries (h : NodesTake k) (first : Bool) : Takes (Compose.flowEntries first (k + 1)) := by
  rw [Compose.flowEntries]
  refine (Takes.accept _).bind fun _ => .ite (.pure _) (comma first fun _ => ?_)
  refine (Takes.accept _).bind fun _ => .ite ?_ ?_
  · refine (Takes.isNext _).bind fun _ => .either (.pure _) (h.node _ _) fun key => ?_
    exact h.value _ _ _ fun _ => (h.flowEntries _).bind fun _ => .pure _
  · exact (Takes.accept _).bind fun _ => .ite (.pure _)
      ((h.node _ _).bind fun _ => (h.flowEntries _).bind fun _ => .pure _)

end NodesTake

/-- **The steps that read nodes only take tokens from the front.** -/
theorem nodesTake (k : ℕ) : NodesTake k := by
  induction k with
  | zero => exact ⟨fun _ _ => .throw _, .throw _, .throw _, .throw _, fun _ => .throw _, fun _ => .throw _⟩
  | succ k ih =>
    exact ⟨ih.succ_node, ih.succ_blockItems, ih.succ_flushItems, ih.succ_blockEntries, ih.succ_flowItems,
      ih.succ_flowEntries⟩

/-! ### Documents -/

lemma takes_directives (versioned : Bool) (handles : List (String × String)) (k : ℕ) :
    Takes (directives versioned handles k) := by
  induction k generalizing versioned handles with
  | zero => exact .pure _
  | succ k ih =>
    rw [directives]
    refine Takes.peek.bind fun t => ?_
    split
    · exact Takes.drop.bind fun _ => .ite (.throw _) (ih _ _)
    · exact Takes.drop.bind fun _ => Takes.get.bind fun _ => .ite (.throw _) (ih _ _)
    · exact Takes.drop.bind fun _ => ih _ _
    · exact .pure _

lemma takes_dropEnds (k : ℕ) : Takes (dropEnds k) := by
  induction k with
  | zero => exact .pure _
  | succ k ih => exact (Takes.accept _).bind fun _ => .ite ih (.pure _)

lemma takes_startDocument (k : ℕ) : Takes (startDocument k) := by
  refine (takes_dropEnds k).bind fun _ => Takes.peek.bind fun t => .ite (.pure _) ?_
  refine (takes_directives _ _ k).bind fun handles => (Takes.expect _).bind fun _ => ?_
  exact (Takes.modify fun _ => by exact List.suffix_refl _).bind fun _ => .pure _

lemma takes_isDirectiveNext : Takes isDirectiveNext := by
  refine Takes.peek.bind fun t => ?_
  split <;> exact .pure _

lemma takes_firstDocument (k : ℕ) : Takes (firstDocument k) := by
  have hnode : Takes (some <$> node true false k) := ((nodesTake k).node true false).bind fun _ => .pure _
  refine takes_isDirectiveNext.bind fun _ => (Takes.isNext _).bind fun _ => .ite ?_ ?_
  · exact (Takes.modify fun _ => by exact List.suffix_refl _).bind fun _ => hnode
  · refine (takes_startDocument k).bind fun _ => .ite ?_ (.pure _)
    exact .bind (takes_isDirectiveNext.bind fun _ => .ite (.pure _) (.isNext _)) fun _ => .ite (.pure _) hnode

lemma exists_of_peek {t : Token} (h : peek s = .ok (t, s')) : s' = s ∧ ∃ ts, s.tokens = t :: ts := by
  obtain ⟨tokens, fault, handles, names, count⟩ := s
  cases tokens with
  | nil => cases h
  | cons t ts =>
    cases h
    exact ⟨rfl, ts, rfl⟩

/-- No document begins only where the end of the text is found. -/
lemma streamEnd_mem_of_startDocument (h : startDocument k s = .ok (false, s')) : .streamEnd ∈ s.tokens := by
  obtain ⟨_, s₁, hends, h⟩ := exists_of_bind h
  obtain ⟨t, s₂, hpeek, hrest⟩ := exists_of_bind h
  obtain ⟨rfl, ts, htokens⟩ := exists_of_peek hpeek
  by_cases ht : t = .streamEnd
  · refine (takes_dropEnds k hends).subset ?_
    rw [htokens, ht]
    exact List.mem_cons_self
  · rw [if_neg (by simpa using ht)] at hrest
    obtain ⟨handles, s₃, -, hexpect⟩ := exists_of_bind hrest
    obtain ⟨_, s₄, -, hend⟩ := exists_of_bind hexpect
    cases hend

/-- **A document comes to its end only where the end is among the tokens.** -/
theorem streamEnd_mem_of_onlyDocument {n : Node} (h : onlyDocument k s = .ok (some n, s')) :
    .streamEnd ∈ s.tokens := by
  obtain ⟨d, s₁, hd, h⟩ := exists_of_bind h
  cases d with
  | none => cases h
  | some m =>
    obtain ⟨more, s₂, hmore, h⟩ := exists_of_bind h
    cases more with
    | false => exact (takes_firstDocument k hd).subset (streamEnd_mem_of_startDocument hmore)
    | true => cases h

end ApiContract.Yaml.Compose
