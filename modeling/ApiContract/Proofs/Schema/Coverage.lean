import ApiContract.Proofs.Schema.Properties
import ApiContract.Schema.OfXml
import Mathlib.Data.List.Forall2

/-!
Which elements of a content model get a property. A sequence takes up its own elements, those of the
choices in it, and those of the sequences in these choices, and nothing that is further inside; a
branch of a choice takes up as much, seen from the branch. So the properties are named by the elements
inside fewer than three groups, or fewer than four if the group that a branch is counts as one
(`keys_typeSchema`), and an element further inside is lost if no other one has its name
(`deep_element_lost`).
-/

namespace ApiContract.Schema

/-! ### Elements inside groups -/

/-- The element is among the particles, inside as many groups as the number says. -/
inductive Particle.Holds (e : ElementDecl) : Nat → List Particle → Prop where
  | here {ps : List Particle} (h : element e ∈ ps) : Holds e 0 ps
  | inside {k : Nat} {kind : GroupKind} {ms ps : List Particle} (h : group kind ms ∈ ps)
      (hm : Holds e k ms) : Holds e (k + 1) ps

namespace Particle

variable {e : ElementDecl} {k : Nat} {ps : List Particle}

lemma holds_zero_iff : Holds e 0 ps ↔ element e ∈ ps :=
  ⟨fun h => by cases h with | here h => exact h, .here⟩

lemma holds_succ_iff : Holds e (k + 1) ps ↔ ∃ kind ms, group kind ms ∈ ps ∧ Holds e k ms := by
  constructor
  · intro h
    cases h with
    | inside h hm => exact ⟨_, _, h, hm⟩
  · rintro ⟨_, _, h, hm⟩
    exact .inside h hm

lemma holds_singleton_element_iff {e' : ElementDecl} : Holds e k [element e'] ↔ k = 0 ∧ e = e' := by
  cases k with
  | zero => simp [holds_zero_iff]
  | succ k => simp [holds_succ_iff]

lemma holds_singleton_group_iff {kind : GroupKind} {ms : List Particle} :
    Holds e k [group kind ms] ↔ ∃ j, k = j + 1 ∧ Holds e j ms := by
  cases k with
  | zero => simp [holds_zero_iff]
  | succ k =>
    rw [holds_succ_iff]
    constructor
    · rintro ⟨_, _, h, hm⟩
      cases List.mem_singleton.1 h
      exact ⟨k, rfl, hm⟩
    · rintro ⟨j, hj, hm⟩
      cases hj
      exact ⟨kind, ms, List.mem_singleton_self _, hm⟩

/-- What is held at fewer than `n + 1` groups is there, or in a group at fewer than `n`. -/
lemma exists_holds_lt_succ {n : Nat} : (∃ k < n + 1, Holds e k ps) ↔
    element e ∈ ps ∨ ∃ kind ms, group kind ms ∈ ps ∧ ∃ k < n, Holds e k ms := by
  constructor
  · rintro ⟨_ | k, hk, h⟩
    · exact .inl (holds_zero_iff.1 h)
    · obtain ⟨kind, ms, hg, hm⟩ := holds_succ_iff.1 h
      exact .inr ⟨kind, ms, hg, k, Nat.lt_of_succ_lt_succ hk, hm⟩
  · rintro (h | ⟨kind, ms, hg, k, hk, hm⟩)
    · exact ⟨0, Nat.succ_pos _, .here h⟩
    · exact ⟨k + 1, Nat.succ_lt_succ hk, .inside hg hm⟩

/-! ### What is taken up -/

/-- Elements taken from each particle by `f`: an element itself, and from a group what `g` takes. -/
lemma mem_flatMap_particle {f : Particle → List ElementDecl} {g : List Particle → List ElementDecl}
    (he : ∀ e, f (element e) = [e]) (hg : ∀ kind ms, f (group kind ms) = g ms) :
    e ∈ ps.flatMap f ↔ element e ∈ ps ∨ ∃ kind ms, group kind ms ∈ ps ∧ e ∈ g ms := by
  rw [List.mem_flatMap]
  constructor
  · rintro ⟨_ | ⟨kind, ms⟩, hp, h⟩
    · rw [he, List.mem_singleton] at h
      exact .inl (h ▸ hp)
    · exact .inr ⟨kind, ms, hp, hg kind ms ▸ h⟩
  · rintro (h | ⟨kind, ms, hp, h⟩)
    · exact ⟨_, h, he e ▸ List.mem_singleton_self e⟩
    · exact ⟨_, hp, (hg kind ms).symm ▸ h⟩

lemma mem_directElements : e ∈ directElements ps ↔ ∃ k < 1, Holds e k ps := by
  rw [exists_holds_lt_succ, directElements, List.mem_filterMap]
  constructor
  · rintro ⟨_ | _, hp, h⟩
    · cases h; exact .inl hp
    · cases h
  · rintro (h | ⟨_, _, _, _, hk, _⟩)
    · exact ⟨_, h, rfl⟩
    · exact absurd hk (Nat.not_lt_zero _)

lemma mem_flattened : e ∈ flattened ps ↔ ∃ k < 2, Holds e k ps := by
  rw [exists_holds_lt_succ, flattened,
    mem_flatMap_particle (g := directElements) (fun _ => rfl) fun _ _ => rfl]
  simp only [mem_directElements]

/-- **A sequence takes up what is inside fewer than three groups.** -/
theorem mem_sequenceElements : e ∈ sequenceElements ps ↔ ∃ k < 3, Holds e k ps := by
  rw [exists_holds_lt_succ, sequenceElements,
    mem_flatMap_particle (g := flattened) (fun _ => rfl) fun _ _ => rfl]
  simp only [mem_flattened]

/-- The elements of a branch of a choice. -/
def branch : Particle → List ElementDecl
  | element e => [e]
  | group _ ms => sequenceElements ms

theorem mem_branch {p : Particle} : e ∈ p.branch ↔ ∃ k < 4, Holds e k [p] := by
  obtain e' | ⟨kind, ms⟩ := p
  · simp only [branch, List.mem_singleton, holds_singleton_element_iff]
    exact ⟨fun h => ⟨0, by decide, rfl, h⟩, fun ⟨_, _, _, h⟩ => h⟩
  · simp only [branch, mem_sequenceElements, holds_singleton_group_iff]
    constructor
    · rintro ⟨k, hk, h⟩
      exact ⟨k + 1, Nat.succ_lt_succ hk, k, rfl, h⟩
    · rintro ⟨_, hk, k, rfl, h⟩
      exact ⟨k, Nat.lt_of_succ_lt_succ hk, h⟩

end Particle

lemma ContentModel.branches_eq_map (ms : List Particle) :
    ContentModel.branches ms = ms.map Particle.branch := by
  refine List.map_congr_left fun p _ => ?_
  cases p <;> rfl

/-! ### The properties of a type -/

section

variable {imports : Imports} {d : Document} {chain : List String} {name defaultType : String}

lemma mem_keys_ofFields_fieldNodes {k : String} {es : List ElementDecl} :
    k ∈ keys (Node.ofFields (fieldNodes imports d chain defaultType es)).properties ↔
      ∃ e ∈ es, e.name = k := by
  rw [Node.mem_keys_properties]
  simp [fieldNodes]

/-- **The properties of a declared type.** Those of a sequence are named by the elements inside fewer
than three groups of it. A choice has an alternative for each of its branches, in their order, and
the properties of an alternative are named by the elements inside fewer than four groups, where a
branch that is a group counts as one. -/
theorem keys_typeSchema {t : ComplexType} (hc : name ∉ chain) (ht : d.findType? name = some t) :
    (∀ ms, t.content = some ⟨.sequence, ms⟩ → ∀ k,
      k ∈ keys (typeSchema imports d chain defaultType name).properties ↔
        ∃ e : ElementDecl, e.name = k ∧ ∃ j < 3, Particle.Holds e j ms) ∧
    ∀ max ms, t.content = some ⟨.choice max, ms⟩ →
      List.Forall₂ (fun p n => ∀ k, k ∈ keys n.properties ↔
          ∃ e : ElementDecl, e.name = k ∧ ∃ j < 4, Particle.Holds e j [p])
        ms (typeSchema imports d chain defaultType name).alternatives := by
  obtain ⟨tn, content⟩ := t
  refine ⟨?_, ?_⟩
  · rintro ms rfl k
    rw [typeSchema_of_sequence hc ht, mem_keys_ofFields_fieldNodes]
    simp only [Particle.mem_sequenceElements]
    exact exists_congr fun e => and_comm
  · rintro max ms rfl
    rw [typeSchema_of_choice hc ht, ContentModel.branches_eq_map, List.map_map]
    refine List.forall₂_map_right_iff.2 (List.forall₂_same.2 fun p _ k => ?_)
    rw [Function.comp_apply, mem_keys_ofFields_fieldNodes]
    simp only [Particle.mem_branch]
    exact exists_congr fun e => and_comm

end

/-! ### Inside and too far inside -/

/-- A construct of XML Schema. -/
def xsdNode (base : String) (attributes : List (String × String)) (children : List Xml.Node) :
    Xml.Node :=
  .element (xsd base) (attributes.map fun a => (⟨none, a.1⟩, a.2)) children

/-- A schema with a type `t` that is a sequence of a choice of a sequence, in which there are
particles. -/
def nestedSchema (particles : List Xml.Node) : Xml.Node :=
  xsdNode "schema" [] [xsdNode "complexType" [("name", "t")] [xsdNode "sequence" []
    [xsdNode "choice" [] [xsdNode "sequence" [] particles]]]]

/-- An element `x` that holds text. -/
def textElement : Xml.Node := xsdNode "element" [("name", "x"), ("type", "xs:string")] []

/-- What `textElement` declares. -/
def textDecl : ElementDecl := { ElementDecl.ofName "x" with typeRef := some "xs:string" }

/-- The sequence of the choice of the sequence gives its element a property. -/
theorem keys_typeSchema_nested :
    let d := Document.ofRoot (nestedSchema [textElement]) [] none
    ∃ t ms, "t" ∉ ([] : List String) ∧ d.findType? "t" = some t ∧
      t.content = some ⟨.sequence, ms⟩ ∧ Particle.Holds textDecl 2 ms ∧
      textDecl.name ∈ keys (typeSchema [] d [] "string" "t").properties := by
  have hx : Particle.Holds textDecl 2
      [.group (.choice none) [.group .sequence [.element textDecl]]] :=
    .inside List.mem_cons_self (.inside List.mem_cons_self (.here List.mem_cons_self))
  refine ⟨_, _, by decide, rfl, rfl, hx, ?_⟩
  exact ((keys_typeSchema (by decide) rfl).1 _ rfl _).2 ⟨textDecl, rfl, 2, by decide, hx⟩

/-- An element in a choice in that sequence is lost: it is declared, and the object has no property
of its name. -/
theorem deep_element_lost :
    let d := Document.ofRoot (nestedSchema [xsdNode "choice" [] [textElement]]) [] none
    ∃ t ms, d.findType? "t" = some t ∧ t.content = some ⟨.sequence, ms⟩ ∧
      Particle.Holds textDecl 3 ms ∧
      textDecl.name ∉ keys (typeSchema [] d [] "string" "t").properties := by
  have hx : Particle.Holds textDecl 3
      [.group (.choice none) [.group .sequence [.group (.choice none) [.element textDecl]]]] :=
    .inside List.mem_cons_self (.inside List.mem_cons_self
      (.inside List.mem_cons_self (.here List.mem_cons_self)))
  refine ⟨_, _, rfl, rfl, hx, ?_⟩
  rw [typeSchema_of_sequence (by decide) rfl]
  decide

end ApiContract.Schema
