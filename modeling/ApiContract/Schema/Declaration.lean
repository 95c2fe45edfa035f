import ApiContract.Value
import ApiContract.Xml.Tree

/-!
What a schema document declares: elements, complex types with a content model, and imports. Only
what an interface description is made from is kept. Occurrence bounds stay as they are written.
-/

namespace ApiContract.Schema

/-- The namespace of XML Schema. -/
def xsdSpace : String := "http://www.w3.org/2001/XMLSchema"

/-- The name of a construct of XML Schema. -/
def xsd (base : String) : Xml.Name := ⟨some xsdSpace, base⟩

/-- An element, at the top of a document or in a content model. -/
structure ElementDecl where
  name : String
  typeRef : Option String
  minOccurs : Option String
  maxOccurs : Option String
  defaultValue : Option String
  fixedValue : Option String
  documentation : Option String
  deriving Repr, DecidableEq, Inhabited

namespace ElementDecl

/-- An element of which nothing but the name is known. -/
def ofName (name : String) : ElementDecl := ⟨name, none, none, none, none, none, none⟩

/-- The element must occur: its lower bound is one. -/
def isRequired (e : ElementDecl) : Bool := e.minOccurs.isNone || e.minOccurs == some "1"

/-- The element may occur more than once. -/
def isRepeated (e : ElementDecl) : Bool := e.maxOccurs.isSome && e.maxOccurs != some "1"

end ElementDecl

/-- The two kinds of groups of particles: all of them in their order, or one of them. A choice keeps
its upper bound. -/
inductive GroupKind where
  | sequence
  | choice (maxOccurs : Option String)
  deriving Repr, DecidableEq, Inhabited

/-- A particle of a content model: an element or a group of particles. -/
inductive Particle where
  | element (e : ElementDecl)
  | group (kind : GroupKind) (members : List Particle)
  deriving Repr, Inhabited

namespace Particle

/-- The element that a particle is. -/
def element? : Particle → Option ElementDecl
  | element e => some e
  | group _ _ => none

/-- The elements among particles. -/
def directElements (ps : List Particle) : List ElementDecl := ps.filterMap element?

/-- The elements of a branch of a choice: an element itself, or those directly in a group. -/
def branchElements : Particle → List ElementDecl
  | element e => [e]
  | group _ members => directElements members

/-- The elements of all branches of a choice. -/
def flattened (ps : List Particle) : List ElementDecl := ps.flatMap branchElements

/-- The elements that a member of a sequence adds to it: those of a choice stand in its place. -/
def memberElements : Particle → List ElementDecl
  | element e => [e]
  | group _ members => flattened members

/-- The elements of a sequence. -/
def sequenceElements (ps : List Particle) : List ElementDecl := ps.flatMap memberElements

end Particle

/-- The content model of a type. -/
structure ContentModel where
  kind : GroupKind
  members : List Particle
  deriving Repr, Inhabited

/-- Whether a choice with this upper bound may be made any number of times. -/
def isUnbounded (maxOccurs : Option String) : Bool := maxOccurs == some "unbounded"

/-- A complex type; its content model is left out if it is of a kind that is not understood. -/
structure ComplexType where
  name : String
  content : Option ContentModel
  deriving Repr, Inhabited

/-- The import of a namespace from a place. -/
structure Import where
  space : String
  location : String
  deriving Repr, DecidableEq

/-- A schema document. -/
structure Document where
  targetSpace : Option String
  namespaces : List (String × String)
  types : List ComplexType
  elements : List ElementDecl
  imports : List Import
  source : Option String
  deriving Repr, Inhabited

namespace Document

/-- The first type of a name. -/
def findType? (d : Document) (name : String) : Option ComplexType :=
  d.types.find? (·.name == name)

/-- The names of all types. -/
def typeNames (d : Document) : List String := d.types.map (·.name)

/-- The labels that stand for a namespace; the default one is none of them. -/
def labelsOf (d : Document) (space : String) : List String :=
  (d.namespaces.filter fun p => p.2 == space && p.1 != "").map (·.1)

/-- The labels that stand for XML Schema. -/
def xsdLabels (d : Document) : List String := d.labelsOf xsdSpace

/-- The labels that stand for the document's own namespace. -/
def ownLabels (d : Document) : List String :=
  "tns" :: match d.targetSpace with
    | none => []
    | some t => if t.isEmpty then [] else d.labelsOf t

/-- The label of each namespace that imports may name. Of two labels the later counts. -/
def importLabels (d : Document) : List (String × String) :=
  fieldsOf ((d.namespaces.filter fun p =>
    p.1 != "" && p.2 != xsdSpace && p.1 != "xs" && p.1 != "xsd").map fun p => (p.2, p.1))

end Document

end ApiContract.Schema
