import ApiContract.Text.Base64
import ApiContract.Value.Display
import ApiContract.Value.Json
import ApiContract.Value.Moment
import ApiContract.Yaml.Layout

/-!
Values in YAML, in block style. Every item and every field has a line of its own; the items of a
list below a key are not indented. A key that does not fit on a line with its value is set apart by
a question mark. What is found in several places has a name in the first of them, by which the others
refer to it.
-/

namespace ApiContract.Yaml

open ApiContract.Text ApiContract.Number

/-- Where a node stands: the indent around it, whether it belongs to a mapping, and whether it is a
key on one line with its value. -/
structure Context where
  indent : Option Nat
  inMapping : Bool
  inKey : Bool

/-- The indent of what is inside. -/
def Context.inner (c : Context) : Nat := match c.indent with
  | some n => n + 2
  | none => 0

/-- The indent of further lines of a scalar. -/
def Context.scalarIndent (c : Context) : Nat := (c.indent.getD 0) + 2

/-- A number with a fraction. An exponent comes after a point. -/
def realText (x : Binary64) : List Char :=
  let cs := x.textWith ".nan".toList ".inf".toList
  if cs.contains '.' then cs
  else match cs.span (· ≠ 'e') with
    | (m, e :: rest) => m ++ ['.', '0', e] ++ rest
    | _ => cs

/-- The text of a value that is a scalar but no text. -/
def plainText? : Value → Option (List Char)
  | .null => some "null".toList
  | .bool true => some "true".toList
  | .bool false => some "false".toList
  | .int n => some (intText n).toList
  | .real x => some (realText x)
  | .date d => some d.text.toList
  | .moment d t => some (d.text ++ " " ++ t.text).toList
  | _ => none

/-- How long the name of the kind of a scalar is. -/
def kindLength : Value → Nat
  | .str _ => 5
  | .int _ => 5
  | .null => 6
  | .bool _ => 6
  | .real _ => 7
  | .bytes _ => 8
  | _ => 11

/-- The longest key that may stand on one line with its value. -/
def keyLimit : Nat := 128

/-- Whether a key may stand on one line with its value. -/
def isSimpleKey (v : Value) : Bool :=
  match v with
  | .str s => !s.isEmpty && !isMultiline s.toList && 5 + s.length < keyLimit
  | .torn t => !isMultiline (t.letters.filterMap Letter.char?) && 5 + t.letters.length < keyLimit
  | .list [] | .map [] | .table [] | .again _ _ => true
  | .bytes _ => false
  | .shared _ v => isSimpleKey v
  | v => match plainText? v with
    | some cs => kindLength v + cs.length < keyLimit
    | none => false

/-- Bytes in base 64, on lines of at most seventy-six characters. -/
def byteLines (bs : List UInt8) : List (List Char) :=
  go bs.length bs
where
  /-- The lines, of which there are at most `fuel`. -/
  go : (fuel : Nat) → List UInt8 → List (List Char)
    | 0, _ => []
    | fuel + 1, bs =>
      if bs.isEmpty then [] else base64Encode (bs.take 57) :: go fuel (bs.drop 57)

/-- Bytes as a block of lines. -/
def writeBytes (c : Context) (bs : List UInt8) (p : Pen) : Pen :=
  let p := p.mark "!!binary".toList true false false
  if bs.isEmpty then writeDouble c.scalarIndent true [] p
  else
    let p := (p.mark ['|'] true false false).breakLine '\n'
    (byteLines bs).foldl (fun p l => ((p.indent c.scalarIndent).put l).breakLine '\n') p

/-- A scalar. -/
def writeScalar (c : Context) (v : Value) (p : Pen) : Pen :=
  match v with
  | .str s => writeStyled (Style.ofText c.inKey s) c.scalarIndent (!c.inKey) s.toList p
  | .torn t => writeTorn c.scalarIndent (!c.inKey) t p
  | .bytes bs => writeBytes c bs p
  | v => writePlain c.scalarIndent (!c.inKey) ((plainText? v).getD []) p

/-- The start of an item. -/
def writeDash (indent : Nat) (p : Pen) : Pen := (p.indent indent).mark ['-'] true false true

/-- What comes between a key and its value. -/
def writeColon (indent : Nat) (simple : Bool) (p : Pen) : Pen :=
  if simple then p.mark [':'] false false false else (p.indent indent).mark [':'] true false true

/-- The start of a key. -/
def writeKeyMark (indent : Nat) (simple : Bool) (p : Pen) : Pen :=
  let p := p.indent indent
  if simple then p else p.mark ['?'] true false true

/-- The name of a thing with a number, after a sign. -/
def writeName (sign : Char) (id : Identity) (p : Pen) : Pen :=
  p.mark (sign :: 'i' :: 'd' :: (padded 3 id.node).toList) true false false

mutual

/-- A node. -/
def writeNode (c : Context) (v : Value) (p : Pen) : Pen :=
  match v with
  | .list [] => (p.mark ['['] true true false).mark [']'] false false false
  | .list (v :: vs) => writeItems (itemIndent c p) (v :: vs) p
  | .pair a b =>
    let i := itemIndent c p
    writeNode ⟨some i, false, false⟩ b
      (writeDash i (writeNode ⟨some i, false, false⟩ a (writeDash i p)))
  | .map [] => writeNoFields p
  | .map (f :: fs) => writeFields c.inner (f :: fs) p
  | .table [] => writeNoFields p
  | .table (e :: es) => writeEntries c.inner (e :: es) p
  | .set [] => writeNoFields (p.mark "!!set".toList true false false)
  | .set (v :: vs) => writeMembers c.inner (v :: vs) (p.mark "!!set".toList true false false)
  | .shared id v => writeNode c v (writeName '&' id p)
  | .again id _ => writeName '*' id p
  | v => writeScalar c v p
where
  /-- The indent of the items of a list. -/
  itemIndent (c : Context) (p : Pen) : Nat :=
    if c.inMapping ∧ ¬ p.fresh then c.indent.getD 0 else c.inner
  /-- A mapping without fields. -/
  writeNoFields (p : Pen) : Pen := (p.mark ['\x7b'] true true false).mark ['\x7d'] false false false

/-- The items of a list. -/
def writeItems (indent : Nat) (vs : List Value) (p : Pen) : Pen :=
  match vs with
  | [] => p
  | v :: vs => writeItems indent vs (writeNode ⟨some indent, false, false⟩ v (writeDash indent p))

/-- The fields of a map. -/
def writeFields (indent : Nat) (fs : List (String × Value)) (p : Pen) : Pen :=
  match fs with
  | [] => p
  | (k, v) :: fs =>
    let simple := isSimpleKey (.str k)
    let p := writeScalar ⟨some indent, true, simple⟩ (.str k) (writeKeyMark indent simple p)
    writeFields indent fs (writeNode ⟨some indent, true, false⟩ v (writeColon indent simple p))

/-- The entries of a mapping whose keys need not be texts. -/
def writeEntries (indent : Nat) (es : List (Value × Value)) (p : Pen) : Pen :=
  match es with
  | [] => p
  | (k, v) :: es =>
    let simple := isSimpleKey k
    let p := writeNode ⟨some indent, true, simple⟩ k (writeKeyMark indent simple p)
    writeEntries indent es (writeNode ⟨some indent, true, false⟩ v (writeColon indent simple p))

/-- The members of a set, as keys without values. -/
def writeMembers (indent : Nat) (vs : List Value) (p : Pen) : Pen :=
  match vs with
  | [] => p
  | v :: vs =>
    let simple := isSimpleKey v
    let p := writeNode ⟨some indent, true, simple⟩ v (writeKeyMark indent simple p)
    writeMembers indent vs
      (writeScalar ⟨some indent, true, false⟩ .null (writeColon indent simple p))

end

/-- Whether a value is written as a scalar without quotes. The end of such a text has to be marked
if it is all that there is. -/
def isPlain : Value → Bool
  | .str s => Style.ofText false s = .plain
  | v => (plainText? v).isSome

/-- The value as a text of its own. -/
def text (v : Value) : String :=
  let p := (writeNode ⟨none, false, false⟩ v.linked Pen.start).indent 0
  String.ofList (p.written.reverse ++ if isPlain v then ['.', '.', '.', '\n'] else [])

/-- The value as a text of its own, if there is one. -/
def write (v : Value) : Except Json.Obstacle String :=
  if v.hasLongInt then .error .longInt else .ok (text v)

end ApiContract.Yaml
