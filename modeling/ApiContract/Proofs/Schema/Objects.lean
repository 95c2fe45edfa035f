import ApiContract.Proofs.Schema.Nesting

/-!
The objects of a schema and what they are made from. A declared type gathers its elements into groups: one
group for a sequence, and one for each branch of a choice (`ComplexType.groups`). Every object anywhere in
the schema of a type is made from one group of a type that is expanded on the way there, or it is empty
because a type is cut off (`exists_gathers_of_part`).
-/

namespace ApiContract.Schema

variable {imports : Imports} {d : Document} {chain : List String} {name defaultType : String}

/-! ### Parts of schemas -/

namespace Node

/-- The first schema is within the second one, or is the second one. -/
inductive Part (n : Node) : Node → Prop where
  | self : Part n n
  | property {k : String} {m : Node} {ps : List (String × Node)} {r : Option (List String)}
      {f : Facets} (hp : (k, m) ∈ ps) (h : Part n m) : Part n (.object ps r f)
  | items {m : Node} {f : Facets} (h : Part n m) : Part n (.array m f)
  | alternative {k : Combinator} {m : Node} {ms : List Node} {f : Facets} (hm : m ∈ ms)
      (h : Part n m) : Part n (.combinator k ms f)

variable {ps : List (String × Node)} {r : Option (List String)} {f g : Facets} {n : Node}

/-- An object within a schema with other facets is within the schema, but for its own facets. -/
lemma exists_part_of_withFacets (h : (object ps r f).Part (n.withFacets g)) :
    ∃ f', (object ps r f').Part n := by
  cases n with
  | primitive t g' => cases h
  | object ps' r' g' =>
    cases h with
    | self => exact ⟨g', .self⟩
    | property hp h => exact ⟨f, .property hp h⟩
  | array m g' =>
    cases h with
    | items h => exact ⟨f, .items h⟩
  | combinator k ms g' =>
    cases h with
    | alternative hm h => exact ⟨f, .alternative hm h⟩

/-- An object within the property of an element is within the schema of its type. -/
lemma exists_part_of_ofField {e : ElementDecl} (h : (object ps r f).Part (ofField e n)) :
    ∃ f', (object ps r f').Part n := by
  obtain ⟨f', h⟩ := exists_part_of_withFacets h
  split at h
  · cases h with
    | items h => exact ⟨f', h⟩
  · exact ⟨f', h⟩

end Node

/-! ### Groups of elements -/

/-- The groups of elements of a content model: those of a sequence, or those of each branch of a
choice. -/
def ContentModel.groups : ContentModel → List (List ElementDecl)
  | ⟨.sequence, ms⟩ => [Particle.sequenceElements ms]
  | ⟨.choice _, ms⟩ => ContentModel.branches ms

/-- The groups of elements of a type. -/
def ComplexType.groups (t : ComplexType) : List (List ElementDecl) :=
  match t.content with
  | none => []
  | some m => m.groups

lemma ComplexType.mem_elements_of_group {t : ComplexType} {es : List ElementDecl} {e : ElementDecl}
    (hes : es ∈ t.groups) (he : e ∈ es) : e ∈ t.elements := by
  obtain ⟨_, _ | ⟨_ | max, ms⟩⟩ := t
  · cases hes
  · show e ∈ Particle.sequenceElements ms
    rwa [← List.mem_singleton.1 hes]
  · exact List.mem_flatten_of_mem hes he

/-- What the elements are that the schema of a call makes one object from: a group of the type that the
call expands, or none at all if it is cut off. -/
inductive Call.Gathers (c : Call) : List ElementDecl → Prop where
  | cut (h : c.name ∈ c.chain) : Gathers c []
  | group {t : ComplexType} {es : List ElementDecl} (hc : c.IsOpen)
      (ht : c.document.findType? c.name = some t) (h : es ∈ t.groups) : Gathers c es

/-! ### Objects of groups -/

section

variable {ps : List (String × Node)} {r : Option (List String)} {f : Facets}

/-- An object within the schema of a declared type is within the object of one of its groups. -/
lemma exists_group_of_part {t : ComplexType} (hc : name ∉ chain) (ht : d.findType? name = some t)
    (h : (Node.object ps r f).Part (typeSchema imports d chain defaultType name)) :
    ∃ es ∈ t.groups, (Node.object ps r f).Part
      (.ofFields (fieldNodes imports d (name :: chain) defaultType es)) := by
  obtain ⟨_, _ | ⟨_ | max, ms⟩⟩ := t
  · rw [typeSchema_of_empty hc ht] at h
    cases h
  · rw [typeSchema_of_sequence hc ht] at h
    exact ⟨_, List.mem_singleton_self _, h⟩
  · rw [typeSchema_of_choice hc ht] at h
    cases h with
    | alternative hm h =>
      obtain ⟨es, hes, rfl⟩ := List.mem_map.1 hm
      exact ⟨es, hes, h⟩

/-- An object within the object of elements is this object, or it is within the schema of the type of
one of the elements. -/
lemma part_ofFields_cases {es : List ElementDecl}
    (h : (Node.object ps r f).Part (.ofFields (fieldNodes imports d chain defaultType es))) :
    Node.object ps r .none = .ofFields (fieldNodes imports d chain defaultType es) ∨
      ∃ e ∈ es, ∃ d' n, e.target imports d = .type d' n ∧
        ∃ f', (Node.object ps r f').Part (typeSchema imports d' chain defaultType n) := by
  set fields := fieldNodes imports d chain defaultType es with hfields
  obtain ⟨r', hr'⟩ : ∃ r', Node.ofFields fields = .object (Node.ofFields fields).properties r' .none :=
    ⟨_, rfl⟩
  rw [hr'] at h
  cases h with
  | self => exact .inl hr'.symm
  | property hp h =>
    obtain ⟨field, hfield, heq⟩ := Node.exists_of_mem_properties hp
    obtain ⟨e, he, rfl⟩ := List.mem_map.1 (hfields ▸ hfield)
    cases heq
    obtain ⟨f', h⟩ := Node.exists_part_of_ofField h
    refine .inr ⟨e, he, ?_⟩
    cases hd : e.target imports d with
    | primitive p =>
      rw [elementSchema_of_primitive hd] at h
      cases h
    | missing label =>
      rw [elementSchema_of_missing hd] at h
      cases h
    | type d' n =>
      rw [elementSchema_of_type hd] at h
      exact ⟨d', n, rfl, f', h⟩

/-- **What objects are made from.** Every object anywhere in the schema of a type is made from the
elements that some call on the way gathers, but for what an element says about its own value. -/
theorem exists_gathers_of_part
    (h : (Node.object ps r f).Part (typeSchema imports d chain defaultType name)) :
    ∃ c es, Call.Leads imports ⟨d, chain, name⟩ c ∧ c.Gathers es ∧
      Node.object ps r .none =
        .ofFields (fieldNodes imports c.document (c.name :: c.chain) defaultType es) := by
  induction d, chain, name using expand_induction imports generalizing f with
  | cut d chain name hc =>
    rw [typeSchema_of_mem hc] at h
    cases h with
    | self => exact ⟨_, [], .refl, .cut hc, rfl⟩
    | property hp => cases hp
  | undeclared d chain name hc ht =>
    rw [typeSchema_of_undeclared hc ht] at h
    cases h
  | declared d chain name t hc ht ih =>
    obtain ⟨es, hes, h⟩ := exists_group_of_part hc ht h
    rcases part_ofFields_cases h with heq | ⟨e, he, d', n, hd, f', h⟩
    · exact ⟨⟨d, chain, name⟩, es, .refl, .group hc ht hes, heq⟩
    · obtain ⟨c, es', hl, hg, heq⟩ := ih e d' n hd h
      have hm : Call.Makes imports ⟨d, chain, name⟩ ⟨d', name :: chain, n⟩ :=
        .element hc ht (t.mem_elements_of_group hes he) hd
      exact ⟨c, es', .head hm hl, hg, heq⟩

end

end ApiContract.Schema
