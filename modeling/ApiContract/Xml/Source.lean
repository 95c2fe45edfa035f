import ApiContract.Text.Blank
import ApiContract.Xml.Declaration
import ApiContract.Xml.Encoding

/-!
The source of a document: its text, and how much of it the XML declaration takes. Given as text it
is taken as it is, whatever encoding it names. Given as bytes it is decoded, and what follows the
declaration goes on in the encoding that is named there.
-/

namespace ApiContract.Xml

open ApiContract.Text

/-- A source: the text in which places are counted, what of it is left after the declaration, the
units it is made of, whether it stands alone, and whether it ends within a unit. -/
structure Source where
  text : List Char
  rest : List Char
  alphabet : Alphabet
  standalone : Bool
  isOdd : Bool
  deriving Repr, DecidableEq

/-- The mark of a byte order, which may come first. -/
def byteOrderMark : Char := '\ufeff'

namespace Source

/-- A text that is cut within its first unit. -/
def cut : Source := ⟨[], [], .utf8, false, true⟩

/-- The source of a text that may begin with a byte order mark. -/
def ofChars (alphabet : Alphabet) (isOdd : Bool) (cs : List Char) : Source :=
  ⟨cs, if cs.head? = some byteOrderMark then cs.drop 1 else cs, alphabet, false, isOdd⟩

/-- The source of bytes in an encoding. -/
def decode (e : Encoding) (bytes : List UInt8) : Source :=
  ofChars e.alphabet (e.alphabet == .sixteenBit && bytes.length % 2 == 1) (e.decode bytes)

/-- The failure that a fault in the source is. -/
def failure (s : Source) : Fault → Failure
  | .malformed r rest => .malformed r.message (.ofRest s.text rest)
  | .ended =>
    .malformed (if s.isOdd then Reason.unclosedToken else .noElement).message (.ofRest s.text [])
  | .unknownEntity name rest => .malformed ("undefined entity &" ++ name ++ ";") (.ofRest s.text rest)
  | .forbidden e => .forbidden e

/-- The source after its declaration, if it has one, and the name of an encoding there with the text
from the name on. -/
def readDeclaration (s : Source) : Except Failure (Source × Option (String × List Char)) :=
  match Declaration.read? s.alphabet s.rest with
  | none => .ok (s, none)
  | some (.error f, _) => .error (s.failure f)
  | some (.ok d, rest) => .ok ({ s with rest := rest, standalone := d.standalone }, d.encoding)

/-- The source when what is left of it goes on in another encoding. Places then count the bytes. -/
def switch (s : Source) (old new : Encoding) (bytes : List UInt8) : Source :=
  if new = old then s
  else
    let n := old.byteCount (s.text.take (s.text.length - s.rest.length))
    let rest := new.decode (bytes.drop n)
    ⟨(bytes.take n).map (fun b => Char.ofNat b.toNat) ++ rest, rest, new.alphabet, s.standalone, false⟩

/-- The source of a text. A text whose first or second character is the null character is taken for
units of sixteen bits, as bytes would be. -/
def ofText (cs : List Char) : Except Failure Source :=
  match Encoding.sniff (encode (cs.take 2)) with
  | none => .ok cut
  | some e => (decode e (encode cs)).readDeclaration.map (·.1)

/-- The source of bytes. -/
def ofBytes (bytes : List UInt8) : Except Failure Source :=
  match Encoding.sniff bytes with
  | none => .ok cut
  | some e => match (decode e bytes).readDeclaration with
    | .error f => .error f
    | .ok (s, none) => .ok s
    | .ok (s, some (name, place)) => match e.goOn name with
      | .ok e' => .ok (s.switch e e' bytes)
      | .error .contradicted => .error (s.failure (.malformed .wrongEncoding place))
      | .error .foreign => .error (s.failure (.malformed .unknownEncoding place))
      | .error (.fault f) => .error (.encoding f)

end Source

end ApiContract.Xml
