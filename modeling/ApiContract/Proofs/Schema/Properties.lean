import ApiContract.Proofs.Fields
import ApiContract.Proofs.Schema.Unfolding
import ApiContract.Schema.Node

/-!
The properties of object nodes. Each element of a type gives one property under its name, and the
last element of a name counts (`properties_ofFields`). The schema of a declared type is put together
from the schemas of its elements (`typeSchema_of_sequence`, `typeSchema_of_choice`).
-/

namespace ApiContract.Schema

variable {imports : Imports} {d : Document} {chain : List String} {name defaultType : String}

namespace Node

/-- The properties of an object. -/
def properties : Node → List (String × Node)
  | object ps _ _ => ps
  | _ => []

/-- The alternatives of a choice. -/
def alternatives : Node → List Node
  | combinator _ ns _ => ns
  | _ => []

/-- What is said about the value that the node describes. -/
def facets : Node → Facets
  | primitive _ f => f
  | object _ _ f => f
  | array _ f => f
  | combinator _ _ f => f

/-- The required names of an object, if it has any or could have. -/
def required : Node → Option (List String)
  | object _ r _ => r
  | _ => .none

/-- An object. -/
def isObject : Node → Bool
  | object _ _ _ => true
  | _ => false

/-! ### Objects of fields -/

/-- The property that a field gives. -/
def propertyOf (field : ElementDecl × Node) : String × Node := (field.1.name, ofField field.1 field.2)

lemma properties_foldl_add (fields : List (ElementDecl × Node)) (s : Shape) :
    (fields.foldl Shape.add s).properties =
      (fields.map propertyOf).foldl (fun fs p => putField p.1 p.2 fs) s.properties := by
  induction fields generalizing s with
  | nil => rfl
  | cons f fields ih => rw [List.foldl_cons, ih]; rfl

@[simp] theorem properties_ofFields (fields : List (ElementDecl × Node)) :
    (ofFields fields).properties = fieldsOf (fields.map propertyOf) :=
  properties_foldl_add fields ⟨[], .none⟩

/-- The names of the properties are the names of the elements. -/
theorem mem_keys_properties {k : String} {fields : List (ElementDecl × Node)} :
    k ∈ keys (ofFields fields).properties ↔ ∃ f ∈ fields, f.1.name = k := by
  rw [properties_ofFields, mem_keys_fieldsOf]
  simp [keys, propertyOf]

/-- Every property is that of a field. -/
theorem exists_of_mem_properties {p : String × Node} {fields : List (ElementDecl × Node)}
    (h : p ∈ (ofFields fields).properties) : ∃ f ∈ fields, p = propertyOf f := by
  rw [properties_ofFields] at h
  obtain ⟨f, hf, rfl⟩ := List.mem_map.1 (mem_of_mem_fieldsOf h)
  exact ⟨f, hf, rfl⟩

/-! ### Expansions as lists -/

lemma ofExpandedFields_eq_map (fields : List (ElementDecl × Expansion)) :
    ofExpandedFields defaultType fields =
      fields.map fun f => (f.1, ofExpansion defaultType f.2) := by
  induction fields with
  | nil => rfl
  | cons f fields ih => obtain ⟨e, x⟩ := f; rw [ofExpandedFields, ih]; rfl

lemma ofBranches_eq_map (branches : List (List (ElementDecl × Expansion))) :
    ofBranches defaultType branches =
      branches.map fun b => ofFields (ofExpandedFields defaultType b) := by
  induction branches with
  | nil => rfl
  | cons b bs ih => rw [ofBranches, ih]; rfl

end Node

/-! ### The schema of a type -/

/-- The fields of elements, with the schemas of their types. -/
def fieldNodes (imports : Imports) (d : Document) (chain : List String) (defaultType : String)
    (es : List ElementDecl) : List (ElementDecl × Node) :=
  es.map fun e => (e, elementSchema imports d chain defaultType e)

lemma ofExpandedFields_follow (es : List ElementDecl) :
    Node.ofExpandedFields defaultType (es.map fun e => (e, expandElement imports d chain e)) =
      fieldNodes imports d chain defaultType es := by
  rw [Node.ofExpandedFields_eq_map, List.map_map]
  rfl

theorem typeSchema_of_mem (h : name ∈ chain) :
    typeSchema imports d chain defaultType name = .object [] none .none := by
  rw [typeSchema, expand_of_mem h]; rfl

theorem typeSchema_of_undeclared (hc : name ∉ chain) (ht : d.findType? name = none) :
    typeSchema imports d chain defaultType name = .primitive defaultType .none := by
  rw [typeSchema, expand_of_undeclared hc ht]; rfl

lemma elementSchema_of_primitive {e : ElementDecl} {p : Primitive}
    (h : e.target imports d = .primitive p) :
    elementSchema imports d chain defaultType e = .primitive p.text .none := by
  rw [elementSchema, expandElement_of_primitive h]; rfl

lemma elementSchema_of_missing {e : ElementDecl} {label : Option String}
    (h : e.target imports d = .missing label) :
    elementSchema imports d chain defaultType e = .primitive defaultType .none := by
  rw [elementSchema, expandElement_of_missing h]; rfl

lemma elementSchema_of_type {e : ElementDecl} {d' : Document} {n : String}
    (h : e.target imports d = .type d' n) :
    elementSchema imports d chain defaultType e = typeSchema imports d' chain defaultType n := by
  rw [elementSchema, expandElement_of_type h, typeSchema]

section Declared

variable {n : String} {ms : List Particle}

theorem typeSchema_of_empty (hc : name ∉ chain) (ht : d.findType? name = some ⟨n, none⟩) :
    typeSchema imports d chain defaultType name = .primitive defaultType .none := by
  rw [typeSchema, expand_of_declared hc ht]; rfl

theorem typeSchema_of_sequence (hc : name ∉ chain)
    (ht : d.findType? name = some ⟨n, some ⟨.sequence, ms⟩⟩) :
    typeSchema imports d chain defaultType name =
      .ofFields (fieldNodes imports d (name :: chain) defaultType
        (Particle.sequenceElements ms)) := by
  rw [typeSchema, expand_of_declared hc ht, ← ofExpandedFields_follow]; rfl

theorem typeSchema_of_choice {max : Option String} (hc : name ∉ chain)
    (ht : d.findType? name = some ⟨n, some ⟨.choice max, ms⟩⟩) :
    typeSchema imports d chain defaultType name =
      .combinator (if isUnbounded max then .anyOf else .oneOf)
        ((ContentModel.branches ms).map fun b =>
          .ofFields (fieldNodes imports d (name :: chain) defaultType b)) .none := by
  have hb : Node.ofBranches defaultType ((ContentModel.branches ms).map
      (·.map fun e => (e, expandElement imports d (name :: chain) e))) =
      (ContentModel.branches ms).map fun b =>
        .ofFields (fieldNodes imports d (name :: chain) defaultType b) := by
    rw [Node.ofBranches_eq_map, List.map_map]
    exact List.map_congr_left fun b _ => by rw [Function.comp_apply, ofExpandedFields_follow]
  rw [typeSchema, expand_of_declared hc ht, ← hb]; rfl

end Declared

end ApiContract.Schema
