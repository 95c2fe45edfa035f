import ApiContract.Number.Numeral
import ApiContract.Text.Quoted
import ApiContract.Xml.Character

/-!
What can be wrong with an XML document, and where. While a document is read, a fault keeps what is
left of the text from the offending place on; the line and the column are worked out once, at the
end, from what comes before it.
-/

namespace ApiContract.Xml

open ApiContract.Number ApiContract.Text

/-- Why a document is not well-formed. -/
inductive Reason where
  | wrongSyntax | noElement | invalidToken | unclosedToken | partialCharacter | mismatchedTag
  | duplicateAttribute | junkAfterRoot | parameterReference | undefinedEntity | badCharacter
  | misplacedDeclaration | unknownEncoding | wrongEncoding | unclosedSection | malformedDeclaration
  | unboundName | undeclaredName | reservedXml | reservedXmlns | reservedSpace | publicIdentifier
  deriving Repr, DecidableEq

/-- The reason in words. -/
def Reason.message : Reason → String
  | wrongSyntax => "syntax error"
  | noElement => "no element found"
  | invalidToken => "not well-formed (invalid token)"
  | unclosedToken => "unclosed token"
  | partialCharacter => "partial character"
  | mismatchedTag => "mismatched tag"
  | duplicateAttribute => "duplicate attribute"
  | junkAfterRoot => "junk after document element"
  | parameterReference => "illegal parameter entity reference"
  | undefinedEntity => "undefined entity"
  | badCharacter => "reference to invalid character number"
  | misplacedDeclaration => "XML or text declaration not at start of entity"
  | unknownEncoding => "unknown encoding"
  | wrongEncoding => "encoding specified in XML declaration is incorrect"
  | unclosedSection => "unclosed CDATA section"
  | malformedDeclaration => "XML declaration not well-formed"
  | unboundName => "unbound prefix"
  | undeclaredName => "must not undeclare prefix"
  | reservedXml =>
    "reserved prefix (xml) must not be undeclared or bound to another namespace name"
  | reservedXmlns => "reserved prefix (xmlns) must not be declared or undeclared"
  | reservedSpace => "prefix must not be bound to one of the reserved namespace names"
  | publicIdentifier => "illegal character(s) in public id"

/-- A place in a text: the line from one, the column from zero. -/
structure Position where
  line : Nat
  column : Nat
  deriving Repr, DecidableEq

/-- The place that follows a text which begins at `p`. A line ends with a line feed, with a carriage
return or with both. -/
def Position.advance (p : Position) : List Char → Position
  | [] => p
  | '\r' :: '\n' :: cs => advance ⟨p.line + 1, 0⟩ cs
  | c :: cs => advance (if c = '\n' ∨ c = '\r' then ⟨p.line + 1, 0⟩ else ⟨p.line, p.column + 1⟩) cs

/-- The place where `rest` begins, which is what is left of `text`. -/
def Position.ofRest (text rest : List Char) : Position :=
  Position.advance ⟨1, 0⟩ (text.take (text.length - rest.length))

/-- The place in words. -/
def Position.message (p : Position) : String :=
  "line " ++ Nat.repr p.line ++ ", column " ++ Nat.repr p.column

/-- A declared entity: its name and the two identifiers of what is outside the document. -/
structure Entity where
  name : String
  systemId : Option String
  publicId : Option String
  deriving Repr, DecidableEq

/-- A text in quotes, or the word for none. -/
def quotedOrNone : Option String → String
  | some s => quoted s
  | none => "None"

/-- The entity in words. -/
def Entity.message (e : Entity) : String :=
  "EntitiesForbidden(name='" ++ e.name ++ "', system_id=" ++ quotedOrNone e.systemId ++
    ", public_id=" ++ quotedOrNone e.publicId ++ ")"

/-- Why bytes cannot be read in the encoding that a document names. -/
inductive EncodingFault where
  | unknown (name : String)
  | noText (name : String)
  | multiByte
  | undefined (name : String)
  | strict (name : String)
  | literal
  deriving Repr, DecidableEq

/-- The fault in words. -/
def EncodingFault.message : EncodingFault → String
  | unknown n => "unknown encoding: " ++ n
  | noText n =>
    "'" ++ String.ofList (n.toList.take 400) ++
      "' is not a text encoding; use codecs.decode() to handle arbitrary codecs"
  | multiByte => "multi-byte encodings are not supported"
  | undefined n => "decoding with '" ++ n ++ "' codec failed (UnicodeError: undefined encoding)"
  | strict n =>
    "decoding with '" ++ n ++ "' codec failed (UnicodeError: Unsupported error handling replace)"
  | literal => "'ascii' codec can't decode byte 0x80 in position 82: ordinal not in range(128)"

/-- A fault of a document that is being read: a reason and the text from the offending place on, the
end of the text where more must come, a reference to an entity that a part of the document type
outside of it may declare, or the declaration of an entity. -/
inductive Fault where
  | malformed (reason : Reason) (rest : List Char)
  | ended
  | unknownEntity (name : String) (rest : List Char)
  | forbidden (entity : Entity)
  deriving Repr, DecidableEq

/-- Why a document cannot be read. -/
inductive Failure where
  | malformed (message : String) (place : Position)
  | forbidden (entity : Entity)
  | encoding (fault : EncodingFault)
  deriving Repr, DecidableEq

/-- The failure in words. -/
def Failure.message : Failure → String
  | malformed m p => m ++ ": " ++ p.message
  | forbidden e => e.message
  | encoding f => f.message

/-- How a scan of one token goes wrong: at a character that may not stand there, because the text
ends, or because it ends within a character. -/
inductive Lapse where
  | invalid (rest : List Char)
  | ended
  | cut
  deriving Repr, DecidableEq

/-- The lapse where one more character of a token must come. -/
def Lapse.ofRest (rest : List Char) : Lapse :=
  if rest.isEmpty then ended else if startsCut rest then cut else invalid rest

/-- The fault that a lapse makes in a token that begins at `start`. -/
def Lapse.toFault (start : List Char) : Lapse → Fault
  | invalid rest => .malformed .invalidToken rest
  | ended => .malformed .unclosedToken start
  | cut => .malformed .partialCharacter start

/-- What a scan gives: a value and the text that is left. -/
abbrev Scan (α : Type) := Except Lapse (α × List Char)

/-- The outcome of a scan of a token that begins at `start`. -/
def Scan.within {α : Type} (start : List Char) (s : Scan α) : Except Fault (α × List Char) :=
  s.mapError (Lapse.toFault start)

theorem Scan.of_within {α : Type} {start rest : List Char} {s : Scan α} {a : α}
    (h : s.within start = .ok (a, rest)) : s = .ok (a, rest) := by
  cases s with
  | error e => cases h
  | ok p => cases h; rfl

end ApiContract.Xml
