import ApiContract.Schema.Declaration
import ApiContract.Text.Blank

/-!
Schema declarations from XML elements. In a sequence the particles are elements and choices, in a
choice elements and sequences; annotations are passed over, and so is all that is not understood,
with a note. The notes are functions of their own beside the functions that read.
-/

namespace ApiContract.Schema

open ApiContract.Text
open ApiContract.Xml (Node)

/-- The documentation in an annotation of a node: the text of the first one, without the blanks
around it. -/
def documentation? (n : Node) : Option String := do
  let annotation ← n.children.find? (·.isNamed (xsd "annotation"))
  let documentation ← annotation.children.find? (·.isNamed (xsd "documentation"))
  let text := trim isBlank documentation.innerText
  if text.isEmpty then none else some (String.ofList text)

/-- The element that a node declares; it must have a name. -/
def ElementDecl.ofNode? (n : Node) : Option ElementDecl :=
  match n.attribute? "name" with
  | none => none
  | some name =>
    if name.isEmpty then none
    else some {
      name
      typeRef := (n.attribute? "type").filter (!·.isEmpty)
      minOccurs := n.attribute? "minOccurs"
      maxOccurs := n.attribute? "maxOccurs"
      defaultValue := n.attribute? "default"
      fixedValue := n.attribute? "fixed"
      documentation := documentation? n }

/-- The kind of group that a node is, as a member of a group of another kind. -/
def GroupKind.ofMember? (outer : GroupKind) (n : Node) : Option GroupKind :=
  match outer with
  | .sequence => if n.isNamed (xsd "choice") then some (.choice (n.attribute? "maxOccurs")) else none
  | .choice _ => if n.isNamed (xsd "sequence") then some .sequence else none

mutual

/-- The particle that a node is in a group. -/
def Particle.ofNode? (outer : GroupKind) (n : Node) : Option Particle :=
  if n.isNamed (xsd "element") then (ElementDecl.ofNode? n).map .element
  else match outer.ofMember? n, n with
    | some kind, .element _ _ children => some (.group kind (Particle.ofNodes kind children))
    | _, _ => none

/-- The particles that nodes are in a group. -/
def Particle.ofNodes (outer : GroupKind) : List Node → List Particle
  | [] => []
  | n :: ns => (Particle.ofNode? outer n).toList ++ Particle.ofNodes outer ns

end

/-- The content model of a type: its first sequence, or else its first choice. -/
def ContentModel.ofType? (n : Node) : Option ContentModel :=
  match n.children.find? (·.isNamed (xsd "sequence")) with
  | some s => some ⟨.sequence, Particle.ofNodes .sequence s.children⟩
  | none => match n.children.find? (·.isNamed (xsd "choice")) with
    | some c =>
      let kind := .choice (c.attribute? "maxOccurs")
      some ⟨kind, Particle.ofNodes kind c.children⟩
    | none => none

/-- The complex type that a node declares. -/
def ComplexType.ofNode (n : Node) : ComplexType :=
  ⟨(n.attribute? "name").getD "", ContentModel.ofType? n⟩

/-- The import that a node declares. -/
def Import.ofNode (n : Node) : Import :=
  ⟨(n.attribute? "namespace").getD "", (n.attribute? "schemaLocation").getD ""⟩

/-- The document under a root, whose namespaces are given. -/
def Document.ofRoot (root : Node) (namespaces : List (String × String)) (source : Option String) :
    Document where
  targetSpace := root.attribute? "targetNamespace"
  namespaces
  types := (root.childrenNamed (xsd "complexType")).map ComplexType.ofNode
  elements := (root.childrenNamed (xsd "element")).filterMap ElementDecl.ofNode?
  imports := (root.childrenNamed (xsd "import")).map Import.ofNode
  source

/-! ### Nesting -/

/-- How deep the markup in the documentation of a node is nested. -/
def documentationDepth (n : Node) : Nat :=
  (((n.children.find? (·.isNamed (xsd "annotation"))).bind
    (·.children.find? (·.isNamed (xsd "documentation")))).map Node.depth).getD 0

mutual

/-- How deep a member of a group is nested. -/
def memberDepth (outer : GroupKind) : Node → Nat
  | .text _ => 0
  | .element name as children =>
    let n : Node := .element name as children
    if n.isNamed (xsd "element") then documentationDepth n
    else match outer.ofMember? n with
      | some kind => groupDepth kind children + 1
      | none => 0

/-- The depth of the deepest of the members of a group. -/
def groupDepth (outer : GroupKind) : List Node → Nat
  | [] => 0
  | n :: ns => max (memberDepth outer n) (groupDepth outer ns)

end

/-- How deep the groups of a complex type are nested. -/
def typeDepth (n : Node) : Nat :=
  match n.children.find? (·.isNamed (xsd "sequence")) with
  | some s => groupDepth .sequence s.children + 1
  | none => match n.children.find? (·.isNamed (xsd "choice")) with
    | some c => groupDepth (.choice none) c.children + 1
    | none => 0

/-- How deep the declarations under a root are nested. -/
def rootDepth (root : Node) : Nat :=
  ((root.childrenNamed (xsd "complexType")).map typeDepth ++
    (root.childrenNamed (xsd "element")).map documentationDepth).foldr max 0

/-! ### Notes -/

/-- The note about an element without a name. -/
def elementNotes (n : Node) : List String :=
  match ElementDecl.ofNode? n with
  | some _ => []
  | none => ["Skipping xs:element without a name attribute: " ++ Node.attributeText n.attributes]

/-- The name of a kind of group. -/
def GroupKind.word : GroupKind → String
  | sequence => "sequence"
  | choice _ => "choice"

mutual

/-- The notes about a member of a group. -/
def particleNotes (outer : GroupKind) : Node → List String
  | .text _ => []
  | .element name as children =>
    let n : Node := .element name as children
    if n.isNamed (xsd "element") then elementNotes n
    else match outer.ofMember? n with
      | some kind => membersNotes kind children
      | none =>
        if n.isNamed (xsd "annotation") then []
        else ["Ignoring unsupported particle '" ++ name.base ++ "' in xs:" ++ outer.word]

/-- The notes about the members of a group. -/
def membersNotes (outer : GroupKind) : List Node → List String
  | [] => []
  | n :: ns => particleNotes outer n ++ membersNotes outer ns

end

/-- The notes about a complex type. -/
def typeNotes (n : Node) : List String :=
  match n.children.find? (·.isNamed (xsd "sequence")) with
  | some s => membersNotes .sequence s.children
  | none => match n.children.find? (·.isNamed (xsd "choice")) with
    | some c => membersNotes (.choice none) c.children
    | none =>
      ["Complex type '" ++ (n.attribute? "name").getD "" ++
        "' has no sequence or choice content model"]

/-- The notes about the declarations under a root. -/
def rootNotes (root : Node) : List String :=
  (root.childrenNamed (xsd "complexType")).flatMap typeNotes ++
    (root.childrenNamed (xsd "element")).flatMap elementNotes

end ApiContract.Schema
