import ApiContract.Schema.Namespaces
import ApiContract.Schema.OfXml
import ApiContract.Xml.Reader

/-!
Reading a schema document from text or from bytes. Blanks around the content are of no account. The
namespaces are those that the raw text declares on the start tag of the schema.
-/

namespace ApiContract.Schema

open ApiContract.Text ApiContract.Number

/-- The content of a document. -/
inductive Content where
  | text (s : String)
  | bytes (bs : List UInt8)
  deriving Repr

/-- The content as text, where bytes that are no UTF-8 are replaced. -/
def Content.rawText : Content → List Char
  | text s => s.toList
  | bytes bs => decodeLenient bs

/-- The XML text of the content, without the blanks around it. -/
def Content.xmlSource : Content → Except Xml.Failure Xml.Source
  | text s => Xml.Source.ofText (trim isBlank s.toList)
  | bytes bs => Xml.Source.ofBytes (trim isBlankByte bs)

/-- Why content is no schema: the XML cannot be read, or its root is another element. The place
where the content comes from is known or not. -/
inductive ReadError where
  | xml (source : Option String) (f : Xml.Failure)
  | otherRoot (source : Option String) (root : String)
  deriving Repr, DecidableEq

/-- The place in words, after what is found there. -/
def inSource : Option String → String
  | some s => if s.isEmpty then "" else " in " ++ s
  | none => ""

/-- The error in words. -/
def ReadError.message : ReadError → String
  | xml s (.malformed m p) =>
    "Invalid XSD content" ++ inSource s ++ ": " ++ (Xml.Failure.malformed m p).message
  | xml s (.forbidden e) => "Forbidden XML construct" ++ inSource s ++ ": " ++ e.message
  | xml _ (.encoding f) => f.message
  | otherRoot s r =>
    "Invalid XSD schema: No XSD schema found" ++ inSource s ++ " (root element: " ++ r ++ ")"

/-- The root of the content, which must be a schema. -/
def readRoot (c : Content) (source : Option String) : Except ReadError Xml.Node :=
  match c.xmlSource with
  | .error f => .error (.xml source f)
  | .ok s => match Xml.read s with
    | .error f => .error (.xml source f)
    | .ok root =>
      if root.isNamed (xsd "schema") then .ok root
      else .error (.otherRoot source ((root.name?.map (·.text)).getD ""))

/-- The document that the content declares. -/
def Document.read (c : Content) (source : Option String) : Except ReadError Document :=
  (readRoot c source).map fun root =>
    Document.ofRoot root (Namespaces.ofText c.rawText) source

/-- The note about a document that is read. -/
def Document.summary (d : Document) : String :=
  "Parsed schema" ++ inSource d.source ++ ": " ++ Nat.repr d.types.length ++ " complex types, " ++
    Nat.repr d.elements.length ++ " elements, " ++ Nat.repr d.imports.length ++ " imports"

/-- The notes that reading the content makes. -/
def readNotes (c : Content) (source : Option String) : List String :=
  match readRoot c source, Document.read c source with
  | .ok root, .ok d => rootNotes root ++ [d.summary]
  | _, _ => []

end ApiContract.Schema
