import ApiContract.Xml.Doctype
import ApiContract.Xml.Source
import ApiContract.Xml.Tree

/-!
Reading a document: an XML declaration, a document type, one element, and around them comments and
instructions. The lexemes of the content go one by one to a stack of open elements, and each
element knows what the names of namespaces stand for inside of it.
-/

namespace ApiContract.Xml

open ApiContract.Text

/-! ### Namespaces -/

/-- What the labels of names stand for; the innermost binding comes first. -/
abbrev Scope := List (Option String × String)

/-- The namespace of the label `xml`. -/
def xmlSpace : String := "http://www.w3.org/XML/1998/namespace"

/-- The namespace of the label `xmlns`. -/
def xmlnsSpace : String := "http://www.w3.org/2000/xmlns/"

namespace Scope

/-- The bindings of every document. -/
def initial : Scope := [(some "xml", xmlSpace)]

/-- Why a label may not stand for a namespace. -/
def obstacle? (label : Option String) (space : String) : Option Reason :=
  if space.isEmpty ∧ label.isSome then some .undeclaredName
  else if label = some "xmlns" then some .reservedXmlns
  else if space.toList.contains '\x7d' then some .wrongSyntax
  else if label = some "xml" then if space = xmlSpace then none else some .reservedXml
  else if space = xmlSpace ∨ space = xmlnsSpace then some .reservedSpace
  else none

/-- The scope with one more binding. -/
def bind (s : Scope) (start : List Char) (label : Option String) (space : String) :
    Except Fault Scope :=
  match obstacle? label space with
  | some r => .error (.malformed r start)
  | none => .ok ((label, space) :: s)

/-- The name of an element. Without a label it is in the default namespace, if there is one. -/
def elementName (s : Scope) (start : List Char) (n : RawName) : Except Fault Name :=
  match s.lookup n.label, n.label with
  | none, none => .ok ⟨none, n.base⟩
  | none, some _ => .error (.malformed .unboundName start)
  | some u, _ => .ok ⟨if u.isEmpty then none else some u, n.base⟩

/-- The names of attributes. Without a label they are in no namespace; two attributes with labels
may not have the same name. -/
def attributeNames (s : Scope) (start : List Char) (seen : List Name) :
    List (RawName × String) → Except Fault (List (Name × String))
  | [] => .ok []
  | (n, v) :: rest => match n.label with
    | none => (attributeNames s start seen rest).map ((⟨none, n.base⟩, v) :: ·)
    | some l => match s.lookup (some l) with
      | none => .error (.malformed .unboundName start)
      | some u =>
        let name : Name := ⟨some u, n.base⟩
        if seen.contains name then .error (.malformed .duplicateAttribute start)
        else (attributeNames s start (name :: seen) rest).map ((name, v) :: ·)

end Scope

/-- The label that an attribute binds to its value. -/
def boundLabel? (n : RawName) : Option (Option String) :=
  if n.label = some "xmlns" then some (some n.base)
  else if n.label = none ∧ n.base = "xmlns" then some none
  else none

/-- The value of an attribute by the rules for its element. -/
def attributeValue (a : Alphabet) (d : Declarations) (rules : List AttributeRule)
    (start : List Char) (r : RawAttribute) : Except Fault String :=
  match expandValue a d.lenient r.value with
  | .error e => .error (e.toFault start r.value r.valuePlace)
  | .ok v =>
    let isText := ((rules.find? (·.name == r.name)).map (·.isText)).getD true
    .ok (String.ofList (if isText then v else normalizeNames v))

/-- The attributes that bind no label, and the scope after those that do. -/
def bindAttributes (start : List Char) (s : Scope) :
    List (RawName × String) → Except Fault (Scope × List (RawName × String))
  | [] => .ok (s, [])
  | (n, v) :: rest => match boundLabel? n with
    | some l => do
      let s ← s.bind start l v
      bindAttributes start s rest
    | none => do
      let (s, as) ← bindAttributes start s rest
      pure (s, (n, v) :: as)

/-- The attributes that are written in a tag, one after the other: a name may stand there once. -/
def writtenAttributes (a : Alphabet) (d : Declarations) (rules : List AttributeRule)
    (start : List Char) (seen : List RawName) (s : Scope) :
    List RawAttribute → Except Fault (Scope × List (RawName × String))
  | [] => .ok (s, [])
  | r :: rest =>
    if seen.contains r.name then .error (.malformed .duplicateAttribute r.place)
    else do
      let v ← attributeValue a d rules start r
      let (s, as) ← bindAttributes start s [(r.name, v)]
      let (s, more) ← writtenAttributes a d rules start (r.name :: seen) s rest
      pure (s, as ++ more)

/-- The attributes that rules give to a tag which does not write them. -/
def defaultAttributes (rules : List AttributeRule) (written : List RawAttribute) :
    List (RawName × String) :=
  rules.filterMap fun r =>
    if written.any (·.name == r.name) then none else r.value.map (r.name, ·)

/-! ### Content -/

/-- An open element: its name as written, its name, its attributes, the scope inside of it and its
children so far, the last one first. -/
structure Frame where
  written : RawName
  name : Name
  attributes : List (Name × String)
  scope : Scope
  children : List Node

/-- The open elements, innermost first. -/
abbrev Frames := List Frame

/-- The scope inside of the innermost element. -/
def Frames.scope : Frames → Scope
  | f :: _ => f.scope
  | [] => .initial

/-- The element that a start tag opens. -/
def openElement (a : Alphabet) (d : Declarations) (outer : Scope) (start : List Char) (n : RawName)
    (as : List RawAttribute) : Except Fault Frame := do
  let rules := d.rulesOf n.written
  let (scope, written) ← writtenAttributes a d rules start [] outer as
  let (scope, implied) ← bindAttributes start scope (defaultAttributes rules as)
  let attributes ← scope.attributeNames start [] (written ++ implied)
  let name ← scope.elementName start n
  pure ⟨n, name, attributes, scope, []⟩

/-- The complete element. -/
def Frame.toNode (f : Frame) : Node := .element f.name f.attributes f.children.reverse

/-- Either the open elements, or the root when it is complete. -/
inductive Progress where
  | within (frames : Frames)
  | complete (root : Node)

/-- The open elements after one more child of the innermost. -/
def Frames.add (fs : Frames) (n : Node) : Progress := match fs with
  | f :: fs => .within ({ f with children := n :: f.children } :: fs)
  | [] => .complete n

/-- The character that a reference in the content stands for. -/
def contentChar (d : Declarations) (start : List Char) : Reference → Except Fault Char
  | .character n => match referredChar? n with
    | some c => .ok c
    | none => .error (.malformed .badCharacter start)
  | .entity n => match namedChar? n with
    | some c => .ok c
    | none => .error (if d.lenient then .unknownEntity n start else .malformed .undefinedEntity start)

/-- The open elements after a lexeme that begins at `start`. -/
def Frames.step (a : Alphabet) (d : Declarations) (fs : Frames) (start : List Char) :
    Lexeme → Except Fault Progress
  | .start n as closed => do
    let f ← openElement a d fs.scope start n as
    pure (if closed then fs.add f.toNode else .within (f :: fs))
  | .stop n => match fs with
    | f :: fs =>
      if f.written.written = n then .ok (Frames.add fs f.toNode)
      else .error (.malformed .mismatchedTag (start.drop 2))
    | [] => .error (.malformed .mismatchedTag (start.drop 2))
  | .text cs => .ok (fs.add (.text cs))
  | .reference r => (contentChar d start r).map fun c => fs.add (.text [c])
  | .aside => .ok (.within fs)

/-- The content from a lexeme on up to the end of the root, and what follows it. -/
def readContent (a : Alphabet) (d : Declarations) (fs : Frames) (cs : List Char) :
    Except Fault (Node × List Char) :=
  match _h : scanLexeme a cs with
  | .error e => .error e
  | .ok (l, rest) => match fs.step a d cs l with
    | .error e => .error e
    | .ok (.complete root) => .ok (root, rest)
    | .ok (.within fs) => readContent a d fs rest
  termination_by cs.length
  decreasing_by exact scanLexeme_length ‹_›

/-! ### What stands around the root -/

/-- Whether the token begins a document type. -/
def Doctype.Token.isDoctype : Doctype.Token → Bool
  | .declaration keyword => keyword == "DOCTYPE"
  | _ => false

/-- What stands before the root: blanks, comments, instructions and one document type. -/
def readProlog (a : Alphabet) (d : Declarations) (typed : Bool) (cs : List Char) :
    Except Fault (Declarations × List Char) :=
  if cs.isEmpty then .error .ended
  else match _h : Doctype.scanToken a cs with
    | .error e => .error (e.toFault cs)
    | .ok (.space, rest) => readProlog a d typed rest
    | .ok (.aside, rest) => readProlog a d typed rest
    | .ok (.element, _) => .ok (d, cs)
    | .ok (t, rest) =>
      if t.isDoctype ∧ ¬typed then
        match _h : Doctype.read a d .rootName rest with
        | .error e => .error e
        | .ok (d, rest) => readProlog a d true rest
      else .error (Doctype.misplaced cs t)
  termination_by cs.length
  decreasing_by
    · exact Doctype.scanToken_length ‹_›
    · exact Doctype.scanToken_length ‹_›
    · have h₁ := Doctype.scanToken_length ‹Doctype.scanToken a cs = _›
      have h₂ := Doctype.read_length ‹_›
      omega

/-- What stands after the root: blanks, comments and instructions. -/
def readEpilog (a : Alphabet) (cs : List Char) : Except Fault Unit :=
  if cs.isEmpty then .ok ()
  else match _h : Doctype.scanToken a cs with
    | .error e => .error (e.toFault cs)
    | .ok (.space, rest) => readEpilog a rest
    | .ok (.aside, rest) => readEpilog a rest
    | .ok _ => .error (.malformed .junkAfterRoot cs)
  termination_by cs.length
  decreasing_by
    · exact Doctype.scanToken_length ‹_›
    · exact Doctype.scanToken_length ‹_›

/-- The root of a document. -/
def readDocument (s : Source) : Except Fault Node := do
  let (d, rest) ← readProlog s.alphabet (.empty s.standalone) false s.rest
  let (root, rest) ← readContent s.alphabet d [] rest
  readEpilog s.alphabet rest
  if s.isOdd then throw .ended else pure root

/-- The root of the document that a source holds. -/
def read (s : Source) : Except Failure Node := (readDocument s).mapError s.failure

/-- The root of the document that a text holds. -/
def readText (s : String) : Except Failure Node := do
  read (← Source.ofText s.toList)

end ApiContract.Xml
