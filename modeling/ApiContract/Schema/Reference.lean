import ApiContract.Schema.Declaration

/-!
References to types. A reference is a name with a label or without one, and what the label stands
for in the document that holds the reference decides where the name is looked up: in the document
itself, among the types of XML Schema, or in an imported document.
-/

namespace ApiContract.Schema

/-- A reference to a type. -/
inductive TypeRef where
  | own (name : String)
  | builtin (name : String)
  | foreign (label name : String)
  deriving Repr, DecidableEq

/-- The labels that stand for XML Schema in every document. -/
def reservedLabels : List String := ["xs", "xsd"]

/-- The reference with a label, in a document. -/
def TypeRef.ofLabel (d : Document) (label name : String) : TypeRef :=
  if d.ownLabels.contains label then .own name
  else if reservedLabels.contains label || d.xsdLabels.contains label then .builtin name
  else .foreign label name

/-- The reference that a text makes in a document. -/
def TypeRef.ofText (d : Document) (text : String) : TypeRef :=
  match text.toList.span (· ≠ ':') with
  | (label, _ :: name) => .ofLabel d (String.ofList label) (String.ofList name)
  | (_, []) => .own text

/-- The reference of an element, if it makes one. -/
def TypeRef.resolve (d : Document) : Option String → Option TypeRef
  | none => none
  | some text => if text.isEmpty then none else some (.ofText d text)

/-- The primitive types of an interface description. -/
inductive Primitive where
  | string | number | integer | boolean
  deriving Repr, DecidableEq

/-- The name of a primitive type. -/
def Primitive.text : Primitive → String
  | string => "string"
  | number => "number"
  | integer => "integer"
  | boolean => "boolean"

/-- The primitive type for a type of XML Schema. -/
def Primitive.ofXsd? : String → Option Primitive
  | "string" | "date" | "dateTime" | "time" => some .string
  | "decimal" | "float" | "double" => some .number
  | "integer" => some .integer
  | "boolean" => some .boolean
  | _ => none

/-- Imported documents by their labels. -/
abbrev Imports := List (String × Document)

/-- Where a reference leads: to a primitive type, to a type of a document, or nowhere, which the
default type stands for. A label for which no document is imported is kept. -/
inductive Target where
  | primitive (p : Primitive)
  | type (d : Document) (name : String)
  | missing (label : Option String)

/-- Where the reference of an element leads. -/
def Target.ofRef (imports : Imports) (d : Document) : Option TypeRef → Target
  | none => .missing none
  | some (.foreign label name) => match imports.lookup label with
    | some e => .type e name
    | none => .missing (some label)
  | some (.builtin name) => match Primitive.ofXsd? name with
    | some p => .primitive p
    | none => .missing none
  | some (.own name) => match Primitive.ofXsd? name with
    | some p => .primitive p
    | none => .type d name

/-- Where the type of an element leads. -/
def ElementDecl.target (imports : Imports) (d : Document) (e : ElementDecl) : Target :=
  .ofRef imports d (TypeRef.resolve d e.typeRef)

/-- A type is looked up in the document that refers to it or in an imported one. -/
theorem ElementDecl.document_of_target {imports : Imports} {d d' : Document} {e : ElementDecl}
    {name : String} (h : e.target imports d = .type d' name) :
    d' = d ∨ ∃ label, (label, d') ∈ imports := by
  unfold target Target.ofRef at h
  split at h
  · cases h
  · split at h
    · rename_i hl
      cases h
      obtain ⟨_, _, himports, -⟩ := List.lookup_eq_some_iff.1 hl
      exact .inr ⟨_, himports ▸ List.mem_append_cons_self⟩
    · cases h
  · split at h <;> cases h
  · split at h
    · cases h
    · cases h; exact .inl rfl

end ApiContract.Schema
