import ApiContract.Proofs.Schema.Context

/-!
Expansion in full. What a type stands for when nothing is cut off is told by the rules of expansion without
a chain (`Unfolds`); a type that leads back to itself stands for nothing then. Expansion cuts off nothing
exactly if no name comes up twice on the way along references, nor one that is in the chain
(`unrepeated_iff_not_cut`), and then it gives what the type stands for in full (`typeSchema_of_unrepeated`).
-/

namespace ApiContract.Schema

variable {imports : Imports} {d : Document} {chain : List String} {name : String} {a : Site}
  {t : ComplexType} {x y : Expansion}

/-! ### Parts of expansions -/

/-- The first expansion is within the second one, or is the second one. -/
inductive Expansion.Part (x : Expansion) : Expansion → Prop where
  | self : Part x x
  | field {fields : List (ElementDecl × Expansion)} {f : ElementDecl × Expansion} (hf : f ∈ fields)
      (h : Part x f.2) : Part x (.object fields)
  | branch {unbounded : Bool} {branches : List (List (ElementDecl × Expansion))}
      {b : List (ElementDecl × Expansion)} {f : ElementDecl × Expansion} (hb : b ∈ branches)
      (hf : f ∈ b) (h : Part x f.2) : Part x (.choice unbounded branches)

section Cuts

variable {n : String}

/-- What a declared type stands for is cut off only within what its elements stand for. -/
lemma cut_part_expansion {follow : ElementDecl → Expansion} :
    (Expansion.cut n).Part (t.expansion follow) ↔
      ∃ e ∈ t.elements, (Expansion.cut n).Part (follow e) := by
  obtain ⟨_, _ | ⟨_ | max, ms⟩⟩ := t
  · constructor
    · intro h
      cases h
    · rintro ⟨_, he, _⟩
      cases he
  · constructor
    · intro h
      cases h with
      | field hf h =>
        obtain ⟨e, he, rfl⟩ := List.mem_map.1 hf
        exact ⟨e, he, h⟩
    · rintro ⟨e, he, h⟩
      exact .field (List.mem_map_of_mem he) h
  · constructor
    · intro h
      cases h with
      | branch hb hf h =>
        obtain ⟨b, hb', rfl⟩ := List.mem_map.1 hb
        obtain ⟨e, he, rfl⟩ := List.mem_map.1 hf
        exact ⟨e, List.mem_flatten_of_mem hb' he, h⟩
    · rintro ⟨e, he, h⟩
      obtain ⟨b, hb, heb⟩ := List.mem_flatten.1 he
      exact .branch (List.mem_map_of_mem hb) (List.mem_map_of_mem heb) h

lemma cut_part_target {follow : Site → Expansion} {x : Target} :
    (Expansion.cut n).Part (x.expansion follow) ↔
      ∃ b, x.site? = some b ∧ (Expansion.cut n).Part (follow b) := by
  cases x with
  | type d name => simp [Target.site?, Target.expansion]
  | primitive _ | missing _ =>
    constructor
    · intro h
      cases h
    · rintro ⟨_, h, _⟩
      cases h

lemma cut_part_opened {follow : Site → Expansion} (ht : a.document.findType? a.name = some t) :
    (Expansion.cut n).Part (t.opened imports a.document follow) ↔
      ∃ b ∈ a.references imports, (Expansion.cut n).Part (follow b) := by
  rw [ComplexType.opened, cut_part_expansion]
  constructor
  · rintro ⟨e, he, h⟩
    obtain ⟨b, hb, h⟩ := cut_part_target.1 h
    exact ⟨b, Site.mem_references.2 ⟨t, ht, e, he, Target.site?_eq_some_iff.1 hb⟩, h⟩
  · rintro ⟨b, hb, h⟩
    obtain ⟨u, hu, e, he, hd⟩ := Site.mem_references.1 hb
    obtain rfl : t = u := Option.some.inj (ht.symm.trans hu)
    exact ⟨e, he, cut_part_target.2 ⟨b, Target.site?_eq_some_iff.2 hd, h⟩⟩

end Cuts

/-! ### Chains of references -/

/-- On the way along references from a type no name comes up twice, and none that is in the chain. -/
def Site.Unrepeated (imports : Imports) (chain : List String) (a : Site) : Prop :=
  ∀ sites : List Site, (a :: sites).IsChain (fun x y => y ∈ x.references imports) →
    ((a :: sites).map (·.name)).Nodup ∧ ∀ x ∈ a :: sites, x.name ∉ chain

/-- The way from a type is its name and a way from one of its references. -/
lemma Site.unrepeated_iff_references : a.Unrepeated imports chain ↔
    a.name ∉ chain ∧ ∀ b ∈ a.references imports, b.Unrepeated imports (a.name :: chain) := by
  constructor
  · intro h
    refine ⟨(h [] (.singleton a)).2 a List.mem_cons_self, fun b hb sites hs => ?_⟩
    obtain ⟨hn, hc⟩ := h (b :: sites) (List.isChain_cons_cons.2 ⟨hb, hs⟩)
    rw [List.map_cons, List.nodup_cons] at hn
    refine ⟨hn.2, fun x hx hm => ?_⟩
    rcases List.mem_cons.1 hm with hxa | hm
    · exact hn.1 (hxa ▸ List.mem_map_of_mem hx)
    · exact hc x (List.mem_cons_of_mem _ hx) hm
  · rintro ⟨ha, h⟩ sites hs
    cases sites with
    | nil => simpa using ha
    | cons b sites =>
      rw [List.isChain_cons_cons] at hs
      obtain ⟨hn, hc⟩ := h b hs.1 sites hs.2
      have hne : ∀ x ∈ b :: sites, x.name ≠ a.name ∧ x.name ∉ chain := fun x hx => by
        simpa using hc x hx
      rw [List.map_cons, List.nodup_cons]
      refine ⟨⟨fun hm => ?_, hn⟩, fun x hx => ?_⟩
      · obtain ⟨x, hx, hxa⟩ := List.mem_map.1 hm
        exact (hne x hx).1 hxa
      · rcases List.mem_cons.1 hx with rfl | hx
        · exact ha
        · exact (hne x hx).2

/-- **Expansion cuts off nothing exactly if no name comes up again** on the way along references. -/
theorem unrepeated_iff_not_cut (imports : Imports) (d : Document) (chain : List String) (name : String) :
    Site.Unrepeated imports chain ⟨d, name⟩ ↔
      ∀ n, ¬(Expansion.cut n).Part (expand imports d chain name) := by
  induction d, chain, name using expand_induction imports with
  | cut d chain name hc =>
    rw [expand_of_mem hc]
    constructor
    · intro h
      exact absurd hc (Site.unrepeated_iff_references.1 h).1
    · intro h
      exact absurd .self (h name)
  | undeclared d chain name hc ht =>
    have hrefs : Site.references imports ⟨d, name⟩ = [] := by simp only [Site.references, ht]
    rw [expand_of_undeclared hc ht, Site.unrepeated_iff_references, hrefs]
    constructor
    · intro _ n h
      cases h
    · intro _
      exact ⟨hc, fun b hb => absurd hb List.not_mem_nil⟩
  | declared d chain name t hc ht ih =>
    have ih' : ∀ b ∈ Site.references imports ⟨d, name⟩,
        b.Unrepeated imports (name :: chain) ↔
          ∀ n, ¬(Expansion.cut n).Part (expand imports b.document (name :: chain) b.name) := by
      intro b hb
      obtain ⟨_, _, e, _, hd⟩ := Site.mem_references.1 hb
      exact ih e b.document b.name hd
    rw [Site.unrepeated_iff_references, expand_eq_opened hc ht]
    constructor
    · rintro ⟨-, h⟩ n hn
      obtain ⟨b, hb, hn⟩ := (cut_part_opened (a := ⟨d, name⟩) ht).1 hn
      exact (ih' b hb).1 (h b hb) n hn
    · intro h
      refine ⟨hc, fun b hb => (ih' b hb).2 fun n hn => ?_⟩
      exact h n ((cut_part_opened (a := ⟨d, name⟩) ht).2 ⟨b, hb, hn⟩)

/-! ### Without a chain -/

/-- What a type stands for in full: by the rules of expansion, but with no chain and nothing cut off. A
declared type stands for what its content model stands for, where each reference stands for something
in full. -/
inductive Unfolds (imports : Imports) : Site → Expansion → Prop where
  | undeclared {a : Site} (ht : a.document.findType? a.name = none) :
      Unfolds imports a (.fallback none)
  | declared {a : Site} {t : ComplexType} (follow : Site → Expansion)
      (ht : a.document.findType? a.name = some t)
      (h : ∀ b ∈ a.references imports, Unfolds imports b (follow b)) :
      Unfolds imports a (t.opened imports a.document follow)

/-- A type stands for one thing in full at most. -/
theorem Unfolds.unique (h : Unfolds imports a x) (h' : Unfolds imports a y) : x = y := by
  induction h generalizing y with
  | undeclared ht =>
    cases h' with
    | undeclared => rfl
    | declared _ ht' => rw [ht] at ht'; cases ht'
  | declared follow ht _ ih =>
    cases h' with
    | undeclared ht' => rw [ht] at ht'; cases ht'
    | declared follow' ht' h' =>
      cases ht.symm.trans ht'
      exact opened_congr ht fun b hb => ih b hb (h' b hb)

/-- Where no name comes up again expansion gives what the type stands for in full. -/
theorem unfolds_expand (h : Site.Unrepeated imports chain ⟨d, name⟩) :
    Unfolds imports ⟨d, name⟩ (expand imports d chain name) := by
  induction d, chain, name using expand_induction imports with
  | cut d chain name hc => exact absurd hc (Site.unrepeated_iff_references.1 h).1
  | undeclared d chain name hc ht =>
    rw [expand_of_undeclared hc ht]
    exact .undeclared ht
  | declared d chain name t hc ht ih =>
    rw [expand_eq_opened hc ht]
    refine .declared (a := ⟨d, name⟩) _ ht fun b hb => ?_
    obtain ⟨_, _, e, _, hd⟩ := Site.mem_references.1 hb
    exact ih e b.document b.name hd ((Site.unrepeated_iff_references.1 h).2 b hb)

/-- **Expansion in full.** If on the way along references from a type no name comes up twice, and none
that is in the chain, then there is one thing that the type stands for in full, nothing in it is cut
off, and the schema of the type is the schema of that. -/
theorem typeSchema_of_unrepeated (h : Site.Unrepeated imports chain ⟨d, name⟩) :
    ∃ x, (∀ y, Unfolds imports ⟨d, name⟩ y ↔ y = x) ∧
      (∀ n, ¬(Expansion.cut n).Part x) ∧
      ∀ defaultType, typeSchema imports d chain defaultType name = .ofExpansion defaultType x := by
  have hx : Unfolds imports ⟨d, name⟩ (expand imports d chain name) := unfolds_expand h
  refine ⟨expand imports d chain name, fun y => ?_, (unrepeated_iff_not_cut _ _ _ _).1 h, fun _ => rfl⟩
  constructor
  · intro hy
    exact hy.unique hx
  · rintro rfl
    exact hx

/-- The type `r` uses the type `a` directly and by way of `b`, and the type is expanded in full at both
places. -/
theorem typeSchema_of_unrepeated_crossing :
    Site.Unrepeated [] ["q"] ⟨crossing, "r"⟩ ∧
    ∃ x, Unfolds [] ⟨crossing, "r"⟩ x ∧ (∀ n, ¬(Expansion.cut n).Part x) ∧
      typeSchema [] crossing ["q"] "string" "r" = .ofExpansion "string" x := by
  obtain ⟨hr, hb, ha, hc⟩ := references_crossing
  have hleaf : ∀ chain, "c" ∉ chain → Site.Unrepeated [] chain ⟨crossing, "c"⟩ := fun chain h =>
    Site.unrepeated_iff_references.2 ⟨h, by rw [hc]; exact fun b hb => absurd hb List.not_mem_nil⟩
  have ha' : ∀ chain, "a" ∉ chain → "c" ∉ "a" :: chain →
      Site.Unrepeated [] chain ⟨crossing, "a"⟩ := fun chain h h' =>
    Site.unrepeated_iff_references.2 ⟨h, by rw [ha]; simpa using hleaf _ h'⟩
  have hb' : Site.Unrepeated [] ["r", "q"] ⟨crossing, "b"⟩ :=
    Site.unrepeated_iff_references.2 ⟨show "b" ∉ ["r", "q"] by decide, by
      rw [hb]; simpa using ha' _ (by decide) (by decide)⟩
  have hr' : Site.Unrepeated [] ["q"] ⟨crossing, "r"⟩ :=
    Site.unrepeated_iff_references.2 ⟨show "r" ∉ ["q"] by decide, by
      rw [hr]; simpa using ⟨ha' _ (by decide) (by decide), hb'⟩⟩
  obtain ⟨x, hx, hcut, hschema⟩ := typeSchema_of_unrepeated hr'
  exact ⟨hr', x, (hx x).2 rfl, hcut, hschema "string"⟩

end ApiContract.Schema
