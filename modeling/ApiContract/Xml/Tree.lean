import ApiContract.Text.Quoted

/-!
The tree of an XML document: elements with attributes and children, and runs of text. A name is a
namespace, if it has one, and a local part. Comments and instructions leave no trace.
-/

namespace ApiContract.Xml

open ApiContract.Text

/-- A name in a namespace, or in none. -/
structure Name where
  space : Option String
  base : String
  deriving Repr, DecidableEq

/-- The name as text, with its namespace in braces. -/
def Name.text (n : Name) : String := match n.space with
  | some s => "\x7b" ++ s ++ "\x7d" ++ n.base
  | none => n.base

/-- A node: an element or a run of text. -/
inductive Node where
  | element (name : Name) (attributes : List (Name × String)) (children : List Node)
  | text (cs : List Char)
  deriving Repr, Inhabited

namespace Node

/-- The name of an element. -/
def name? : Node → Option Name
  | element n _ _ => some n
  | text _ => none

/-- The attributes of an element. -/
def attributes : Node → List (Name × String)
  | element _ as _ => as
  | text _ => []

/-- The children of an element. -/
def children : Node → List Node
  | element _ _ cs => cs
  | text _ => []

/-- The value of an attribute that is in no namespace. -/
def attribute? (n : Node) (key : String) : Option String := n.attributes.lookup ⟨none, key⟩

/-- Whether the node is an element of this name. -/
def isNamed (n : Node) (name : Name) : Bool := n.name? == some name

/-- The children that are elements of a name, in their order. -/
def childrenNamed (n : Node) (name : Name) : List Node := n.children.filter (·.isNamed name)

mutual

/-- The text in a node and in all that is inside of it. -/
def innerText : Node → List Char
  | element _ _ children => innerTexts children
  | text cs => cs

/-- The text in nodes, one after the other. -/
def innerTexts : List Node → List Char
  | [] => []
  | n :: ns => n.innerText ++ innerTexts ns

end

mutual

/-- How many elements are one inside the other. -/
def depth : Node → Nat
  | element _ _ children => depthOfAll children + 1
  | text _ => 0

/-- The depth of the deepest node. -/
def depthOfAll : List Node → Nat
  | [] => 0
  | n :: ns => max n.depth (depthOfAll ns)

end

/-- The attributes in braces, names and values in quotes. -/
def attributeText (as : List (Name × String)) : String :=
  "\x7b" ++ ", ".intercalate (as.map fun a => quoted a.1.text ++ ": " ++ quoted a.2) ++ "\x7d"

end Node

end ApiContract.Xml
