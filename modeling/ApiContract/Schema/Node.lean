import ApiContract.Schema.Expansion

/-!
The schemas of an interface description, as trees: primitive types, objects, arrays and choices of
alternatives. Every node may carry what the element says that it stands for. The tree of an
expansion has an object for fields, an array for a field that may occur more than once, and for the
branches of a choice the alternatives of `oneOf`, or of `anyOf` if the choice is unbounded.
-/

namespace ApiContract.Schema

/-- What an element says about its own value. -/
structure Facets where
  defaultValue : Option String
  fixedValue : Option String
  description : Option String
  deriving Repr, DecidableEq, Inhabited

/-- An element says nothing. -/
def Facets.none : Facets := ⟨.none, .none, .none⟩

/-- What an element says. -/
def Facets.ofElement (e : ElementDecl) : Facets := ⟨e.defaultValue, e.fixedValue, e.documentation⟩

/-- The ways to join alternatives. -/
inductive Combinator where
  | oneOf | anyOf
  deriving Repr, DecidableEq

/-- The word for a way to join alternatives. -/
def Combinator.text : Combinator → String
  | oneOf => "oneOf"
  | anyOf => "anyOf"

/-- A schema. -/
inductive Node where
  | primitive (type : String) (facets : Facets)
  | object (properties : List (String × Node)) (required : Option (List String)) (facets : Facets)
  | array (items : Node) (facets : Facets)
  | combinator (kind : Combinator) (alternatives : List Node) (facets : Facets)
  deriving Repr, Inhabited

namespace Node

/-- The node with other facets. -/
def withFacets (f : Facets) : Node → Node
  | primitive t _ => primitive t f
  | object ps r _ => object ps r f
  | array n _ => array n f
  | combinator k ns _ => combinator k ns f

/-- An array. -/
def isArray : Node → Bool
  | array _ _ => true
  | _ => false

/-! ### From expansions -/

/-- The node of a field: of what its type stands for, in an array if it may be repeated. -/
def ofField (e : ElementDecl) (n : Node) : Node :=
  (if e.isRepeated then array n .none else n).withFacets (.ofElement e)

/-- The properties and the required names of an object that is being put together. -/
structure Shape where
  properties : List (String × Node)
  required : Option (List String)
  deriving Repr, Inhabited

/-- The required names after one more field. Arrays are never among them. -/
def addRequired (e : ElementDecl) (property : Node) (required : Option (List String)) :
    Option (List String) :=
  if e.isRequired then
    let names := required.getD []
    some (if property.isArray || names.contains e.name then names else names ++ [e.name])
  else required

/-- The object after one more field. A field takes the place of an earlier one of its name. -/
def Shape.add (s : Shape) (field : ElementDecl × Node) : Shape :=
  let property := ofField field.1 field.2
  ⟨putField field.1.name property s.properties, addRequired field.1 property s.required⟩

/-- The object of fields. -/
def ofFields (fields : List (ElementDecl × Node)) : Node :=
  let s := fields.foldl Shape.add ⟨[], .none⟩
  object s.properties s.required .none

mutual

/-- The node of an expansion. -/
def ofExpansion (defaultType : String) : Expansion → Node
  | .primitive p => primitive p.text .none
  | .fallback _ => primitive defaultType .none
  | .cut _ => object [] .none .none
  | .object fields => ofFields (ofExpandedFields defaultType fields)
  | .choice unbounded branches =>
    combinator (if unbounded then .anyOf else .oneOf) (ofBranches defaultType branches) .none

/-- The nodes of fields. -/
def ofExpandedFields (defaultType : String) :
    List (ElementDecl × Expansion) → List (ElementDecl × Node)
  | [] => []
  | (e, x) :: fields => (e, ofExpansion defaultType x) :: ofExpandedFields defaultType fields

/-- The objects of branches. -/
def ofBranches (defaultType : String) : List (List (ElementDecl × Expansion)) → List Node
  | [] => []
  | b :: bs => ofFields (ofExpandedFields defaultType b) :: ofBranches defaultType bs

end

/-! ### As values -/

/-- The fields of facets. -/
def facetFields (f : Facets) : List (String × Value) :=
  (f.defaultValue.map fun s => ("default", Value.str s)).toList ++
    (f.fixedValue.map fun s => ("fixed", Value.str s)).toList ++
    (f.description.map fun s => ("description", Value.str s)).toList

mutual

/-- The node as a value. -/
def toValue : Node → Value
  | primitive t f => .map (("type", .str t) :: facetFields f)
  | object ps r f =>
    .map (("type", .str "object") :: ("properties", .map (propertyValues ps)) ::
      ((r.map fun names => ("required", Value.list (names.map .str))).toList ++ facetFields f))
  | array n f => .map (("type", .str "array") :: ("items", n.toValue) :: facetFields f)
  | combinator k ns f => .map ((k.text, .list (toValues ns)) :: facetFields f)

/-- Properties as fields. -/
def propertyValues : List (String × Node) → List (String × Value)
  | [] => []
  | (k, n) :: ps => (k, n.toValue) :: propertyValues ps

/-- Nodes as values. -/
def toValues : List Node → List Value
  | [] => []
  | n :: ns => n.toValue :: toValues ns

end

end Node

/-- The schema of a type of a document. -/
def typeSchema (imports : Imports) (d : Document) (chain : List String) (defaultType : String)
    (name : String) : Node :=
  .ofExpansion defaultType (expand imports d chain name)

/-- The schema of the type of an element. -/
def elementSchema (imports : Imports) (d : Document) (chain : List String) (defaultType : String)
    (e : ElementDecl) : Node :=
  .ofExpansion defaultType (expandElement imports d chain e)

/-! ### Notes -/

mutual

/-- The notes about an expansion. -/
def expansionNotes (defaultType : String) : Expansion → List String
  | .primitive _ => []
  | .fallback _ => []
  | .cut name => ["Circular reference to type '" ++ name ++ "', emitting empty object"]
  | .object fields => fieldNotes defaultType fields
  | .choice _ branches => branchNotes defaultType branches

/-- The notes about fields. -/
def fieldNotes (defaultType : String) : List (ElementDecl × Expansion) → List String
  | [] => []
  | (e, x) :: fields =>
    (match x with
      | .fallback (some label) =>
        ["No imported schema for prefix '" ++ label ++ "' of element '" ++ e.name ++
          "', using default type '" ++ defaultType ++ "'"]
      | _ => expansionNotes defaultType x) ++ fieldNotes defaultType fields

/-- The notes about branches. -/
def branchNotes (defaultType : String) : List (List (ElementDecl × Expansion)) → List String
  | [] => []
  | b :: bs => fieldNotes defaultType b ++ branchNotes defaultType bs

end

/-- The notes about the schema of the type of an element. -/
def elementNotesOf (imports : Imports) (d : Document) (defaultType : String) (e : ElementDecl) :
    List String :=
  fieldNotes defaultType [(e, expandElement imports d [] e)]

end ApiContract.Schema
