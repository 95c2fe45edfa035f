import ApiContract.Proofs.Schema.Properties

/-!
Documents that are expanded alike. A simulation puts documents in relation to each other and elements
in the place of elements: the first type of a name in one document becomes the first type of this name
in the other one, and an element leads where the element in its place leads, but for the relation. Then
the schemas in both are the same, however deep they are (`Simulation.typeSchema_eq`). Statements about
two sets of documents use this and make no induction of their own.
-/

namespace ApiContract.Schema

/-! ### Elements in the place of elements -/

/-- The element without its type: its name, its bounds and what it says about its value. -/
def ElementDecl.withoutType (e : ElementDecl) : ElementDecl := { e with typeRef := none }

mutual

/-- The particle with other elements in the place of its elements. -/
def Particle.map (f : ElementDecl → ElementDecl) : Particle → Particle
  | .element e => .element (f e)
  | .group kind members => .group kind (Particle.mapMembers f members)

/-- The particles with other elements. -/
def Particle.mapMembers (f : ElementDecl → ElementDecl) : List Particle → List Particle
  | [] => []
  | p :: ps => p.map f :: Particle.mapMembers f ps

end

/-- The content model with other elements. -/
def ContentModel.map (f : ElementDecl → ElementDecl) (m : ContentModel) : ContentModel :=
  ⟨m.kind, Particle.mapMembers f m.members⟩

/-- The type with other elements. -/
def ComplexType.map (f : ElementDecl → ElementDecl) (t : ComplexType) : ComplexType :=
  ⟨t.name, t.content.map (·.map f)⟩

namespace Particle

variable {f : ElementDecl → ElementDecl}

lemma mapMembers_eq_map (ps : List Particle) : mapMembers f ps = ps.map (Particle.map f) := by
  induction ps with
  | nil => rfl
  | cons p ps ih => rw [mapMembers, ih, List.map_cons]

/-- What is taken up from each particle is replaced if it is so for one particle. -/
lemma flatMap_mapMembers {g : Particle → List ElementDecl} (h : ∀ p, g (p.map f) = (g p).map f)
    (ps : List Particle) : (mapMembers f ps).flatMap g = (ps.flatMap g).map f := by
  rw [mapMembers_eq_map, List.flatMap_map, List.map_flatMap]
  exact List.flatMap_congr fun p _ => h p

lemma directElements_mapMembers (ps : List Particle) :
    directElements (mapMembers f ps) = (directElements ps).map f := by
  induction ps with
  | nil => rfl
  | cons p ps ih =>
    cases p with
    | element e => exact congrArg (f e :: ·) ih
    | group kind ms => exact ih

lemma flattened_mapMembers (ps : List Particle) :
    flattened (mapMembers f ps) = (flattened ps).map f := by
  refine flatMap_mapMembers (fun p => ?_) ps
  cases p with
  | element e => rfl
  | group kind ms => exact directElements_mapMembers ms

lemma sequenceElements_mapMembers (ps : List Particle) :
    sequenceElements (mapMembers f ps) = (sequenceElements ps).map f := by
  refine flatMap_mapMembers (fun p => ?_) ps
  cases p with
  | element e => rfl
  | group kind ms => exact flattened_mapMembers ms

lemma branches_mapMembers (ps : List Particle) :
    ContentModel.branches (mapMembers f ps) = (ContentModel.branches ps).map (·.map f) := by
  unfold ContentModel.branches
  rw [mapMembers_eq_map, List.map_map, List.map_map]
  refine List.map_congr_left fun p _ => ?_
  cases p with
  | element e => rfl
  | group kind ms => exact sequenceElements_mapMembers ms

end Particle

lemma ElementDecl.withoutType_id (e : ElementDecl) : (id e).withoutType = e.withoutType := rfl

mutual

lemma Particle.map_id : (p : Particle) → p.map id = p
  | .element _ => rfl
  | .group kind ms => congrArg (Particle.group kind) (Particle.mapMembers_id ms)

lemma Particle.mapMembers_id : (ps : List Particle) → Particle.mapMembers id ps = ps
  | [] => rfl
  | p :: ps => congrArg₂ List.cons (Particle.map_id p) (Particle.mapMembers_id ps)

end

lemma ComplexType.map_id (t : ComplexType) : t.map id = t := by
  obtain ⟨name, _ | ⟨kind, ms⟩⟩ := t
  · rfl
  · simp [map, ContentModel.map, Particle.mapMembers_id]

lemma Document.map_id_findType? (d : Document) (name : String) :
    (d.findType? name).map (·.map id) = d.findType? name := by
  rw [funext ComplexType.map_id]
  exact Option.map_id'

/-! ### Fields of elements in the place of elements -/

/-- Of an element its type has no part in the field. -/
lemma Node.ofFields_congr {fields fields' : List (ElementDecl × Node)}
    (h : fields.map (fun f => (f.1.withoutType, f.2)) =
      fields'.map fun f => (f.1.withoutType, f.2)) : ofFields fields = ofFields fields' := by
  have hf : ∀ fs : List (ElementDecl × Node),
      ofFields (fs.map fun f => (f.1.withoutType, f.2)) = ofFields fs := by
    intro fs
    unfold ofFields
    rw [List.foldl_map]
    rfl
  rw [← hf fields, h, hf fields']

/-! ### Simulations -/

/-- The targets are primitive types or missing ones, or types of one name in related documents. -/
inductive Target.Related (R : Document → Document → Prop) : Target → Target → Prop where
  | primitive (p : Primitive) : Related R (.primitive p) (.primitive p)
  | missing (label label' : Option String) : Related R (.missing label) (.missing label')
  | type {d d' : Document} (h : R d d') (name : String) : Related R (.type d name) (.type d' name)

lemma Target.Related.of_self {R : Document → Document → Prop} {x : Target}
    (h : ∀ d name, x = .type d name → R d d) : x.Related R x := by
  cases x with
  | primitive p => exact .primitive p
  | type d name => exact .type (h d name rfl) name
  | missing label => exact .missing label label

/-- A simulation of documents with imports by documents with other imports. -/
structure Simulation (imports imports' : Imports) where
  element : ElementDecl → ElementDecl
  Related : Document → Document → Prop
  withoutType_element : ∀ e, (element e).withoutType = e.withoutType
  findType? : ∀ {d d'}, Related d d' → ∀ name,
    d'.findType? name = (d.findType? name).map (·.map element)
  target : ∀ {d d'}, Related d d' → ∀ {name t}, d.findType? name = some t → ∀ e ∈ t.elements,
    (e.target imports d).Related Related ((element e).target imports' d')

variable {imports imports' : Imports} {d d' : Document} {chain : List String}
  {name defaultType : String}

/-- Elements that lead to related targets have the same schema if related documents do. -/
lemma elementSchema_eq_of_related {R : Document → Document → Prop} {e e' : ElementDecl}
    (he : (e.target imports d).Related R (e'.target imports' d'))
    (htype : ∀ x x' n, e.target imports d = .type x n → R x x' →
      typeSchema imports x chain defaultType n = typeSchema imports' x' chain defaultType n) :
    elementSchema imports d chain defaultType e = elementSchema imports' d' chain defaultType e' := by
  unfold elementSchema
  generalize hx : e.target imports d = x at he
  generalize hx' : e'.target imports' d' = x' at he
  cases he with
  | primitive p => rw [expandElement_of_primitive hx, expandElement_of_primitive hx']
  | missing label label' =>
    rw [expandElement_of_missing hx, expandElement_of_missing hx']
    rfl
  | type h n =>
    rw [expandElement_of_type hx, expandElement_of_type hx']
    exact htype _ _ n hx h

namespace Simulation

variable (s : Simulation imports imports')

/-- The fields of elements are those of the elements in their places. -/
lemma ofFields_fieldNodes_eq {es : List ElementDecl}
    (h : ∀ e ∈ es, elementSchema imports d chain defaultType e =
      elementSchema imports' d' chain defaultType (s.element e)) :
    Node.ofFields (fieldNodes imports d chain defaultType es) =
      Node.ofFields (fieldNodes imports' d' chain defaultType (es.map s.element)) := by
  refine Node.ofFields_congr ?_
  unfold fieldNodes
  rw [List.map_map, List.map_map, List.map_map]
  refine List.map_congr_left fun e he => ?_
  simp only [Function.comp_apply]
  rw [s.withoutType_element, h e he]

/-- A declared type has the schema of the type in its place if its elements do. -/
lemma typeSchema_eq_of_elements {t : ComplexType} (hc : name ∉ chain)
    (ht : d.findType? name = some t) (ht' : d'.findType? name = some (t.map s.element))
    (h : ∀ e ∈ t.elements, elementSchema imports d (name :: chain) defaultType e =
      elementSchema imports' d' (name :: chain) defaultType (s.element e)) :
    typeSchema imports d chain defaultType name = typeSchema imports' d' chain defaultType name := by
  obtain ⟨tn, _ | ⟨_ | max, ms⟩⟩ := t
  · rw [typeSchema_of_empty hc ht, typeSchema_of_empty hc ht']
  · rw [typeSchema_of_sequence hc ht, typeSchema_of_sequence hc ht',
      Particle.sequenceElements_mapMembers]
    exact s.ofFields_fieldNodes_eq h
  · rw [typeSchema_of_choice hc ht, typeSchema_of_choice hc ht', Particle.branches_mapMembers,
      List.map_map]
    have hb : ∀ b ∈ ContentModel.branches ms,
        Node.ofFields (fieldNodes imports d (name :: chain) defaultType b) =
          Node.ofFields (fieldNodes imports' d' (name :: chain) defaultType (b.map s.element)) :=
      fun b hb => s.ofFields_fieldNodes_eq fun e he =>
        h e (List.mem_flatten_of_mem hb he)
    rw [List.map_congr_left hb]
    rfl

/-- **Related documents have the same schemas**, whatever types refer to each other. -/
theorem typeSchema_eq (h : s.Related d d') (chain : List String) (defaultType name : String) :
    typeSchema imports d chain defaultType name = typeSchema imports' d' chain defaultType name := by
  induction d, chain, name using expand_induction imports generalizing d' with
  | cut d chain name hc => rw [typeSchema_of_mem hc, typeSchema_of_mem hc]
  | undeclared d chain name hc ht =>
    have ht' : d'.findType? name = none := by rw [s.findType? h, ht]; rfl
    rw [typeSchema_of_undeclared hc ht, typeSchema_of_undeclared hc ht']
  | declared d chain name t hc ht ih =>
    have ht' : d'.findType? name = some (t.map s.element) := by rw [s.findType? h, ht]; rfl
    refine s.typeSchema_eq_of_elements hc ht ht' fun e he => ?_
    exact elementSchema_eq_of_related (s.target h ht e he) fun x x' n hx hr => ih e x n hx hr

/-- Elements that lead to related targets have the same schema. -/
theorem elementSchema_eq {e e' : ElementDecl}
    (h : (e.target imports d).Related s.Related (e'.target imports' d')) (chain : List String)
    (defaultType : String) :
    elementSchema imports d chain defaultType e = elementSchema imports' d' chain defaultType e' :=
  elementSchema_eq_of_related h fun _ _ n _ hr => s.typeSchema_eq hr chain defaultType n

end Simulation

/-! ### Small documents -/

/-- An element with a type. -/
def elementOf (name ref : String) : ElementDecl := { ElementDecl.ofName name with typeRef := some ref }

/-- A sequence of one element, whose type is `ref`. -/
def sequenceOf (name element : String) (ref : Option String) : ComplexType :=
  ⟨name, some ⟨.sequence, [.element { ElementDecl.ofName element with typeRef := ref }]⟩⟩

/-- A document with these types alone. -/
def Document.ofTypes (ts : List ComplexType) : Document := ⟨none, [], ts, [], [], none⟩

end ApiContract.Schema
