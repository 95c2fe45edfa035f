import ApiContract.Proofs.Schema.Properties

/-!
The shape of schemas. A schema stands at a position in the tree of another one: it is the whole tree, or a
property, the items of an array or an alternative of a choice (`Node.Occurs`). Which schemas may stand
where is a grammar (`Node.Fits`): arrays, and what elements say about their values, belong to properties,
and the alternatives of a choice are objects. The schema of an expansion keeps to the grammar however deep
it is (`fits_ofExpansion`), so the schemas of types and elements have this shape everywhere
(`hasShape_schemas`).
-/

namespace ApiContract.Schema

variable {defaultType : String}

namespace Node

/-! ### Positions -/

/-- Where a schema stands: it is the whole tree, the value of a property, the items of an array or an
alternative of a choice. -/
inductive Position where
  | root | property | items | alternative
  deriving Repr, DecidableEq

/-- A schema stands at a position in the tree. -/
inductive Occurs (tree : Node) : Position → Node → Prop where
  | root : Occurs tree .root tree
  | property {p : Position} {ps : List (String × Node)} {r : Option (List String)} {f : Facets}
      {k : String} {n : Node} (h : Occurs tree p (.object ps r f)) (hn : (k, n) ∈ ps) :
      Occurs tree .property n
  | items {p : Position} {n : Node} {f : Facets} (h : Occurs tree p (.array n f)) :
      Occurs tree .items n
  | alternative {p : Position} {k : Combinator} {ns : List Node} {f : Facets} {n : Node}
      (h : Occurs tree p (.combinator k ns f)) (hn : n ∈ ns) : Occurs tree .alternative n

/-- The names that types of primitive schemas have. -/
def primitiveNames (defaultType : String) : List String :=
  ["string", "number", "integer", "boolean", defaultType]

/-- **The shape of a tree.** Arrays stand only where properties do, and only there is anything said about a
value; the alternatives of a choice are objects; and a primitive schema has the name of a primitive type or
the default type. -/
structure HasShape (defaultType : String) (tree : Node) : Prop where
  property_of_isArray : ∀ p n, tree.Occurs p n → n.isArray = true → p = .property
  property_of_facets : ∀ p n, tree.Occurs p n → n.facets ≠ .none → p = .property
  isObject_of_alternative : ∀ n, tree.Occurs .alternative n → n.isObject = true
  mem_primitiveNames : ∀ p t f, tree.Occurs p (.primitive t f) → t ∈ primitiveNames defaultType

/-! ### The grammar -/

/-- The schema may stand at the position, with all that is within it. -/
inductive Fits (defaultType : String) : Position → Node → Prop where
  | primitive {p : Position} {t : String} {f : Facets} (hp : p ≠ .alternative)
      (hf : f ≠ .none → p = .property) (ht : t ∈ primitiveNames defaultType) :
      Fits defaultType p (.primitive t f)
  | object {p : Position} {ps : List (String × Node)} {r : Option (List String)} {f : Facets}
      (hf : f ≠ .none → p = .property) (h : ∀ k n, (k, n) ∈ ps → Fits defaultType .property n) :
      Fits defaultType p (.object ps r f)
  | array {n : Node} {f : Facets} (h : Fits defaultType .items n) :
      Fits defaultType .property (.array n f)
  | combinator {p : Position} {k : Combinator} {ns : List Node} {f : Facets} (hp : p ≠ .alternative)
      (hf : f ≠ .none → p = .property) (h : ∀ n ∈ ns, Fits defaultType .alternative n) :
      Fits defaultType p (.combinator k ns f)

variable {tree n : Node} {p : Position}

/-- In a tree that keeps to the grammar everything may stand where it does. -/
lemma Fits.of_occurs (ht : Fits defaultType .root tree) (h : tree.Occurs p n) :
    Fits defaultType p n := by
  induction h with
  | root => exact ht
  | property _ hn ih =>
    cases ih with
    | object _ hps => exact hps _ _ hn
  | items _ ih =>
    cases ih with
    | array hitems => exact hitems
  | alternative _ hn ih =>
    cases ih with
    | combinator _ _ hns => exact hns _ hn

/-- A tree that keeps to the grammar has the shape. -/
theorem Fits.hasShape (ht : Fits defaultType .root tree) : tree.HasShape defaultType where
  property_of_isArray p n h ha := by
    cases ht.of_occurs h with
    | array => rfl
    | _ => cases ha
  property_of_facets p n h hf := by
    cases ht.of_occurs h with
    | primitive _ hp _ => exact hp hf
    | object hp _ => exact hp hf
    | array => rfl
    | combinator _ hp _ => exact hp hf
  isObject_of_alternative n h := by
    cases ht.of_occurs h with
    | object => rfl
    | primitive hp => exact absurd rfl hp
    | combinator hp => exact absurd rfl hp
  mem_primitiveNames p t f h := by
    cases ht.of_occurs h with
    | primitive _ _ hname => exact hname

/-! ### Schemas of expansions -/

lemma primitiveText_mem (x : Primitive) : x.text ∈ primitiveNames defaultType := by
  cases x <;> simp [Primitive.text, primitiveNames]

/-- What may be the items of an array may be a property, whatever is said about its value. -/
lemma Fits.withFacets (h : Fits defaultType .items n) (f : Facets) :
    Fits defaultType .property (n.withFacets f) := by
  cases h with
  | primitive _ _ ht => exact .primitive (by decide) (fun _ => rfl) ht
  | object _ hps => exact .object (fun _ => rfl) hps
  | combinator _ _ hns => exact .combinator (by decide) (fun _ => rfl) hns

/-- The property of an element may stand where properties do. -/
lemma Fits.ofField (h : Fits defaultType .items n) (e : ElementDecl) :
    Fits defaultType .property (ofField e n) := by
  unfold Node.ofField
  split
  · exact .array h
  · exact h.withFacets _

/-- The object of fields may stand at every position. -/
lemma fits_ofFields {fields : List (ElementDecl × Node)}
    (h : ∀ f ∈ fields, Fits defaultType .items f.2) (p : Position) :
    Fits defaultType p (ofFields fields) := by
  refine .object (fun hf => absurd rfl hf) fun k m hm => ?_
  obtain ⟨f, hf, heq⟩ := exists_of_mem_properties hm
  cases heq
  exact (h f hf).ofField f.1

mutual

/-- **The schema of an expansion keeps to the grammar**, and may stand at every position but that of an
alternative. -/
theorem fits_ofExpansion {p : Position} (hp : p ≠ .alternative) : (x : Expansion) →
    Fits defaultType p (ofExpansion defaultType x)
  | .primitive x => .primitive hp (fun h => absurd rfl h) (primitiveText_mem x)
  | .fallback _ => .primitive hp (fun h => absurd rfl h) (by simp [primitiveNames])
  | .cut _ => .object (fun h => absurd rfl h) fun _ _ hm => absurd hm List.not_mem_nil
  | .object fields => fits_ofFields (fits_ofExpandedFields fields) p
  | .choice _ branches => .combinator hp (fun h => absurd rfl h) (fits_ofBranches branches)

lemma fits_ofExpandedFields : (fields : List (ElementDecl × Expansion)) →
    ∀ f ∈ ofExpandedFields defaultType fields, Fits defaultType .items f.2
  | [] => fun _ hf => absurd hf List.not_mem_nil
  | (_, x) :: fields => List.forall_mem_cons.2
    ⟨fits_ofExpansion (by decide) x, fits_ofExpandedFields fields⟩

lemma fits_ofBranches : (branches : List (List (ElementDecl × Expansion))) →
    ∀ n ∈ ofBranches defaultType branches, Fits defaultType .alternative n
  | [] => fun _ hn => absurd hn List.not_mem_nil
  | b :: bs => List.forall_mem_cons.2
    ⟨fits_ofFields (fits_ofExpandedFields b) _, fits_ofBranches bs⟩

end

end Node

/-- **The shape of schemas.** In the schema of a type and in that of the type of an element, whatever the
element says: arrays are properties, only properties say something about a value, alternatives are objects,
and primitive schemas have the name of a primitive type or the default type. -/
theorem hasShape_schemas (imports : Imports) (d : Document) (chain : List String)
    (defaultType name : String) (e : ElementDecl) :
    (typeSchema imports d chain defaultType name).HasShape defaultType ∧
      (elementSchema imports d chain defaultType e).HasShape defaultType :=
  ⟨(Node.fits_ofExpansion (by decide) _).hasShape, (Node.fits_ofExpansion (by decide) _).hasShape⟩

end ApiContract.Schema
