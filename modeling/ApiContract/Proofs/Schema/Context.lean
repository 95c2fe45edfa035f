import ApiContract.Proofs.Schema.Nesting
import ApiContract.Proofs.Schema.Simulation

/-!
What surrounds a type. While a type is expanded the names of the types around it are kept, and a type whose
name is among them is cut off. Of these names only those matter that come up when the type is expanded
(`expand_eq_of_met`), and only names of types that it reaches by references come up. So the schema of a type
is the same wherever it is used, as long as it does not lead back to what is around it
(`typeSchema_of_context`).
-/

namespace ApiContract.Schema

variable {imports : Imports} {d : Document} {chain : List String} {name : String}

/-- **Only the names that come up matter.** Expansion in a chain and in another one is the same if they
hold the same of the names that the calls within the first are about. -/
theorem expand_eq_of_met {chain' : List String}
    (h : ∀ c, Call.Leads imports ⟨d, chain, name⟩ c → (c.name ∈ chain ↔ c.name ∈ chain')) :
    expand imports d chain name = expand imports d chain' name := by
  induction d, chain, name using expand_induction imports generalizing chain' with
  | cut d chain name hc =>
    have hc' : name ∈ chain' := (h _ .refl).1 hc
    rw [expand_of_mem hc, expand_of_mem hc']
  | undeclared d chain name hc ht =>
    have hc' : name ∉ chain' := fun hm => hc ((h _ .refl).2 hm)
    rw [expand_of_undeclared hc ht, expand_of_undeclared hc' ht]
  | declared d chain name t hc ht ih =>
    have hc' : name ∉ chain' := fun hm => hc ((h _ .refl).2 hm)
    rw [expand_eq_opened hc ht, expand_eq_opened hc' ht]
    refine opened_congr (a := ⟨d, name⟩) ht fun b hb => ?_
    obtain ⟨_, _, e, _, hd⟩ := Site.mem_references.1 hb
    refine ih e b.document b.name hd fun c hl => ?_
    -- the name of the type itself is put before both chains
    have hm : Call.Makes imports ⟨d, chain, name⟩ ⟨b.document, name :: chain, b.name⟩ :=
      Call.makes_iff.2 ⟨hc, hb, rfl⟩
    rw [List.mem_cons, List.mem_cons, h c (.head hm hl)]

/-- All names that come up are names of types that are reached. -/
theorem expand_eq_of_reached {chain' : List String}
    (h : ∀ a, Site.Reaches imports ⟨d, name⟩ a → (a.name ∈ chain ↔ a.name ∈ chain')) :
    expand imports d chain name = expand imports d chain' name :=
  expand_eq_of_met fun c hl => h c.site hl.reaches

/-- In the expansion of one type another one stands for the same at two places if it reaches none of the
names around them, those around the whole apart. -/
theorem expand_eq_of_unrelated {root : Call} {chain' : List String}
    (hl : Call.Leads imports root ⟨d, chain, name⟩) (hl' : Call.Leads imports root ⟨d, chain', name⟩)
    (h : ∀ a, Site.Reaches imports ⟨d, name⟩ a →
      a.name ∈ chain ∨ a.name ∈ chain' → a.name ∈ root.chain) :
    expand imports d chain name = expand imports d chain' name := by
  refine expand_eq_of_reached fun a ha => ?_
  constructor
  · intro hm
    exact hl'.chain_subset (h a ha (.inl hm))
  · intro hm
    exact hl.chain_subset (h a ha (.inr hm))

/-- **What is around a type matters as far as the type leads back to it.** A type has the same schema in
two chains that hold the same of the names of the types it reaches, and even if they hold the same of
those names only that come up when it is expanded. So at two places within the schema of one type it has
the same schema if none of the names around them, but for those around the whole, is one that it
reaches; and two elements side by side that lead to it have the same schema. -/
theorem typeSchema_of_context (imports : Imports) (d : Document) (name defaultType : String) :
    (∀ chain chain', (∀ a, Site.Reaches imports ⟨d, name⟩ a → (a.name ∈ chain ↔ a.name ∈ chain')) →
      typeSchema imports d chain defaultType name = typeSchema imports d chain' defaultType name) ∧
    (∀ chain chain', (∀ c, Call.Leads imports ⟨d, chain, name⟩ c →
        (c.name ∈ chain ↔ c.name ∈ chain')) →
      typeSchema imports d chain defaultType name = typeSchema imports d chain' defaultType name) ∧
    (∀ root chain chain', Call.Leads imports root ⟨d, chain, name⟩ →
      Call.Leads imports root ⟨d, chain', name⟩ →
      (∀ a, Site.Reaches imports ⟨d, name⟩ a →
        a.name ∈ chain ∨ a.name ∈ chain' → a.name ∈ root.chain) →
      typeSchema imports d chain defaultType name = typeSchema imports d chain' defaultType name) ∧
    ∀ s chain e e', ElementDecl.target imports s e = .type d name →
      ElementDecl.target imports s e' = .type d name →
      elementSchema imports s chain defaultType e = elementSchema imports s chain defaultType e' := by
  refine ⟨fun chain chain' h => ?_, fun chain chain' h => ?_, fun root chain chain' hl hl' h => ?_,
    fun s chain e e' he he' => ?_⟩
  · exact congrArg (Node.ofExpansion defaultType) (expand_eq_of_reached h)
  · exact congrArg (Node.ofExpansion defaultType) (expand_eq_of_met h)
  · exact congrArg (Node.ofExpansion defaultType) (expand_eq_of_unrelated hl hl' h)
  · rw [elementSchema_of_type he, elementSchema_of_type he']

/-! ### One type at two places -/

/-- A document where the type `r` uses `a`, and uses it again by way of `b`. -/
def crossing : Document :=
  .ofTypes [⟨"r", some ⟨.sequence, [.element (elementOf "x" "a"), .element (elementOf "y" "tns:b")]⟩⟩,
    sequenceOf "b" "z" "tns:a", sequenceOf "a" "v" "c", sequenceOf "c" "w" "xs:string"]

lemma references_crossing :
    Site.references [] ⟨crossing, "r"⟩ = [⟨crossing, "a"⟩, ⟨crossing, "b"⟩] ∧
    Site.references [] ⟨crossing, "b"⟩ = [⟨crossing, "a"⟩] ∧
    Site.references [] ⟨crossing, "a"⟩ = [⟨crossing, "c"⟩] ∧
    Site.references [] ⟨crossing, "c"⟩ = [] :=
  ⟨rfl, rfl, rfl, rfl⟩

lemma name_of_reaches_crossing {x : Site} (h : Site.Reaches [] ⟨crossing, "a"⟩ x) :
    x.name = "a" ∨ x.name = "c" := by
  obtain ⟨-, -, ha, hc⟩ := references_crossing
  have hx : x = ⟨crossing, "a"⟩ ∨ x = ⟨crossing, "c"⟩ := by
    refine h.closed (P := fun x => x = ⟨crossing, "a"⟩ ∨ x = ⟨crossing, "c"⟩) (.inl rfl) ?_
    rintro _ (rfl | rfl) y hy
    · rw [ha, List.mem_singleton] at hy
      exact .inr hy
    · rw [hc] at hy
      exact absurd hy List.not_mem_nil
  exact hx.imp (congrArg Site.name) (congrArg Site.name)

/-- The type `a` has the same schema directly under `r` and under `b` within `r`, and elsewhere, and
whether an element refers to it with a label or without one. -/
theorem typeSchema_of_context_crossing :
    (∀ a, Site.Reaches [] ⟨crossing, "a"⟩ a → (a.name ∈ [] ↔ a.name ∈ ["r"])) ∧
    typeSchema [] crossing [] "string" "a" = typeSchema [] crossing ["r"] "string" "a" ∧
    (∀ c, Call.Leads [] ⟨crossing, [], "a"⟩ c → (c.name ∈ [] ↔ c.name ∈ ["b"])) ∧
    typeSchema [] crossing [] "string" "a" = typeSchema [] crossing ["b"] "string" "a" ∧
    Call.Leads [] ⟨crossing, [], "r"⟩ ⟨crossing, ["r"], "a"⟩ ∧
    Call.Leads [] ⟨crossing, [], "r"⟩ ⟨crossing, ["b", "r"], "a"⟩ ∧
    (∀ a, Site.Reaches [] ⟨crossing, "a"⟩ a →
      a.name ∈ ["r"] ∨ a.name ∈ ["b", "r"] → a.name ∈ ([] : List String)) ∧
    typeSchema [] crossing ["r"] "string" "a" = typeSchema [] crossing ["b", "r"] "string" "a" ∧
    elementSchema [] crossing ["r"] "string" (elementOf "x" "a") =
      elementSchema [] crossing ["r"] "string" (elementOf "z" "tns:a") ∧
    keys (typeSchema [] crossing ["b", "r"] "string" "a").properties = ["v"] := by
  obtain ⟨hr, hb, -, -⟩ := references_crossing
  obtain ⟨hreached, hmet, hplaces, hsiblings⟩ := typeSchema_of_context [] crossing "a" "string"
  have hnames : ∀ x, Site.Reaches [] ⟨crossing, "a"⟩ x →
      x.name ∉ ["r"] ∧ x.name ∉ ["b"] ∧ x.name ∉ ["b", "r"] := by
    intro x hx
    rcases name_of_reaches_crossing hx with h | h <;> rw [h] <;> decide
  have hr' : ∀ x, Site.Reaches [] ⟨crossing, "a"⟩ x → (x.name ∈ [] ↔ x.name ∈ ["r"]) :=
    fun x hx => iff_of_false List.not_mem_nil (hnames x hx).1
  have hb' : ∀ c, Call.Leads [] ⟨crossing, [], "a"⟩ c → (c.name ∈ [] ↔ c.name ∈ ["b"]) :=
    fun c hc => iff_of_false List.not_mem_nil (hnames c.site hc.reaches).2.1
  have hra : Call.Makes [] ⟨crossing, [], "r"⟩ ⟨crossing, ["r"], "a"⟩ :=
    Call.makes_iff.2 ⟨List.not_mem_nil, hr ▸ List.mem_cons_self, rfl⟩
  have hrb : Call.Makes [] ⟨crossing, [], "r"⟩ ⟨crossing, ["r"], "b"⟩ :=
    Call.makes_iff.2 ⟨List.not_mem_nil, hr ▸ List.mem_cons_of_mem _ List.mem_cons_self, rfl⟩
  have hba : Call.Makes [] ⟨crossing, ["r"], "b"⟩ ⟨crossing, ["b", "r"], "a"⟩ :=
    Call.makes_iff.2 ⟨show "b" ∉ ["r"] by decide, hb ▸ List.mem_cons_self, rfl⟩
  have hunrelated : ∀ x, Site.Reaches [] ⟨crossing, "a"⟩ x →
      x.name ∈ ["r"] ∨ x.name ∈ ["b", "r"] → x.name ∈ ([] : List String) :=
    fun x hx h => absurd h (not_or.2 ⟨(hnames x hx).1, (hnames x hx).2.2⟩)
  refine ⟨hr', hreached _ _ hr', hb', hmet _ _ hb', .single hra, .tail (.single hrb) hba, hunrelated,
    hplaces ⟨crossing, [], "r"⟩ _ _ (.single hra) (.tail (.single hrb) hba) hunrelated,
    hsiblings crossing _ _ _ rfl rfl, ?_⟩
  rw [typeSchema_of_sequence (by decide) rfl]
  decide

end ApiContract.Schema
