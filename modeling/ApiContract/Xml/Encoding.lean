import ApiContract.Text.Charset
import ApiContract.Text.LetterCase
import ApiContract.Text.Utf8
import ApiContract.Xml.Character
import ApiContract.Xml.Fault

/-!
How bytes are read as text. A byte order mark or the first two bytes tell units of sixteen bits from
bytes; among the encodings of bytes the XML declaration chooses. Units that make no character become
characters that may stand nowhere, one for each unit.
-/

namespace ApiContract.Xml

open ApiContract.Text

/-- An encoding. In a `table` the last bytes up to `ff` are the characters given, and those before
them have the numbers of their characters. -/
inductive Encoding where
  | utf8
  | utf16 (bigEndian : Bool)
  | latin1
  | table (highest : String)
  deriving Repr, DecidableEq

namespace Encoding

/-- The units of texts in the encoding. -/
def alphabet : Encoding → Alphabet
  | utf8 => .utf8
  | utf16 _ => .sixteenBit
  | latin1 => .latin1
  | table _ => .table

/-! ### Decoding -/

/-- How many bytes should follow a first byte of UTF-8. -/
def tailLength (b : UInt8) : Nat := if b == 0xc0 || b == 0xc1 then 1 else (tailLength? b).getD 0

/-- What a first byte of UTF-8 and those after it make, which are as many as there should be. -/
def sequence (b : UInt8) (tail : List UInt8) : List Char :=
  match (firstPiece b tail).1 with
  | .char c => if isAllowed c ∨ c.toNat < 128 then [c] else badUnit :: tail.map fun _ => badUnit
  | .flaw _ _ => if tail.isEmpty then [strayUnit] else badUnit :: tail.map fun _ => badUnit

/-- Bytes in UTF-8. -/
def decodeUtf8 : List UInt8 → List Char
  | [] => []
  | b :: bytes =>
    let n := tailLength b
    let tail := bytes.take n
    if tail.length < n then cutUnit :: tail.map fun _ => cutUnit
    else sequence b tail ++ decodeUtf8 (bytes.drop n)
  termination_by bytes => bytes.length
  decreasing_by simp only [List.length_drop, List.length_cons]; omega

/-- Units of sixteen bits. A byte that is left over is in none of them. -/
def units (bigEndian : Bool) : List UInt8 → List Nat
  | a :: b :: rest =>
    (if bigEndian then a.toNat * 256 + b.toNat else b.toNat * 256 + a.toNat) :: units bigEndian rest
  | _ => []

/-- The characters of units: a high surrogate takes the unit after it along. -/
def decodeUnits : List Nat → List Char
  | [] => []
  | u :: us =>
    if 0xd800 ≤ u ∧ u < 0xdc00 then match us with
      | [] => [cutUnit]
      | v :: us => Char.ofNat (0x10000 + (u - 0xd800) * 0x400 + v % 0x400) :: decodeUnits us
    else if (0xdc00 ≤ u ∧ u < 0xe000) ∨ u = 0xfffe ∨ u = 0xffff then strayUnit :: decodeUnits us
    else Char.ofNat u :: decodeUnits us

/-- The bytes as text. -/
def decode : Encoding → List UInt8 → List Char
  | utf8, bytes => decodeUtf8 bytes
  | utf16 big, bytes => decodeUnits (units big bytes)
  | latin1, bytes => bytes.map fun b => Char.ofNat b.toNat
  | table highest, bytes =>
    let chars := highest.toList.toArray
    bytes.map fun b => (Charset.char? chars b).getD strayUnit

/-- How many bytes a text in the encoding has. -/
def byteCount (e : Encoding) (cs : List Char) : Nat :=
  (cs.map e.alphabet.width).foldl (· + ·) 0 * if e.alphabet = .sixteenBit then 2 else 1

/-- What the first bytes tell. Nothing can be told of a single byte that may be the first of a mark
or of a unit. -/
def sniff : List UInt8 → Option Encoding
  | [b] => if b == 0xfe || b == 0xff || b == 0xef || b == 0 || b == 0x3c then none else some utf8
  | 0xfe :: 0xff :: _ => some (utf16 true)
  | 0xff :: 0xfe :: _ => some (utf16 false)
  | [0xef, 0xbb] => none
  | a :: b :: _ =>
    if a == 0 then some (utf16 true) else if b == 0 then some (utf16 false) else some utf8
  | [] => some utf8

/-! ### Names -/

/-- Why a document cannot be read on in the encoding that it names: its units are others, ASCII is
not ASCII there, or there is no such encoding of bytes. -/
inductive Obstacle where
  | contradicted
  | foreign
  | fault (f : EncodingFault)
  deriving Repr, DecidableEq

/-- The encoding of a charset. -/
def ofCharset (name : String) : Option Charset.Kind → Except Obstacle Encoding
  | none => .error (.fault (.unknown name))
  | some (.bytes highest) => .ok (table highest)
  | some .foreign => .error .foreign
  | some .sequences => .error (.fault .multiByte)
  | some .noText => .error (.fault (.noText name))
  | some .undefined => .error (.fault (.undefined name))
  | some .strict => .error (.fault (.strict name))
  | some .literal => .error (.fault .literal)

/-- The encodings of bytes that every reader of XML knows, by their names in small letters. -/
def ofBytesName? : String → Option Encoding
  | "utf-8" => some utf8
  | "iso-8859-1" => some latin1
  | "us-ascii" => some (table (Charset.unassigned 128))
  | _ => none

/-- The encodings of units of sixteen bits that every reader knows, by their names in small letters;
one of them stands for either order of the bytes. -/
def ofUnitsName? : String → Option (List Encoding)
  | "utf-16" => some [utf16 true, utf16 false]
  | "utf-16be" => some [utf16 true]
  | "utf-16le" => some [utf16 false]
  | _ => none

/-- The encoding in which a document that began in one encoding goes on after it named another. -/
def goOn (e : Encoding) (name : String) : Except Obstacle Encoding :=
  match ofBytesName? (lower name), ofUnitsName? (lower name) with
  | some e', _ => if e = utf8 then .ok e' else .error .contradicted
  | none, some es => if es.contains e then .ok e else .error .contradicted
  | none, none => ofCharset name (Charset.kindOf? name)

end Encoding

end ApiContract.Xml
