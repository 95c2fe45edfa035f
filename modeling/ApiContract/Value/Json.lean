import ApiContract.Value
import ApiContract.Number.Numeral
import ApiContract.Text.Quoted

/-!
Values in JSON. A text is written with the short escapes where there are any, four hexadecimal
digits for the other controls, and everything else as it is. There are two layouts: compact, and
one item a line with two blanks for each level, where empty lists and maps stay on one line.
-/

namespace ApiContract.Json

open ApiContract.Text ApiContract.Number

/-- One character of a text. -/
def escapeChar (c : Char) : List Char :=
  if c == '"' then ['\\', '"']
  else if c == '\\' then ['\\', '\\']
  else if c == '\n' then ['\\', 'n']
  else if c == '\r' then ['\\', 'r']
  else if c == '\t' then ['\\', 't']
  else if c == '\x08' then ['\\', 'b']
  else if c == '\x0c' then ['\\', 'f']
  else if c.toNat < 0x20 then '\\' :: 'u' :: hex 4 c.toNat
  else [c]

/-- A text in quotes. -/
def text (s : String) : List Char := '"' :: s.toList.flatMap escapeChar ++ ['"']

/-- A number with a fraction; the special values have names of their own. -/
def real (x : Binary64) : List Char := x.textWith "NaN".toList "Infinity".toList

/-- Why a value cannot be written: its kind, the kind of a key, a whole number with too many digits, a
thing within itself, or a text that is torn. -/
inductive Obstacle where
  | value (kind : String)
  | key (kind : String)
  | longInt
  | loop
  | torn
  deriving Repr, DecidableEq

/-- The message about a value that cannot be written. -/
def Obstacle.message : Obstacle → String
  | .value k => "Object of type " ++ k ++ " is not JSON serializable"
  | .key k => "keys must be str, int, float, bool or None, not " ++ k
  | .longInt => unwritableInt
  | .loop => "Circular reference detected"
  | .torn => "surrogates not allowed"

/-- A whole number. -/
def int (n : Int) : Except Obstacle String :=
  if isLong n then .error .longInt else .ok (intText n)

/-- How the items of a list or map are set apart: `none` on one line, `some n` one a line and `n`
levels deep. -/
abbrev Depth := Option Nat

/-- The start of a line at a depth, if items have lines of their own. -/
def newline : Depth → List Char
  | none => []
  | some n => '\n' :: List.replicate (2 * n) ' '

/-- The next depth. -/
def Depth.next : Depth → Depth := Option.map (· + 1)

/-- What stands between a key and its value. -/
def colon : Depth → List Char
  | none => [':']
  | some _ => [':', ' ']

/-- Items between brackets. -/
def bracketed (d : Depth) (opening closing : Char) : List (List Char) → List Char
  | [] => [opening, closing]
  | item :: items =>
    opening :: newline d.next ++ item ++ items.flatMap (fun i => ',' :: newline d.next ++ i) ++
      newline d ++ [closing]

/-- The key of a mapping whose keys need not be texts. -/
def keyText : Value → Except Obstacle String
  | .str s => .ok s
  | .null => .ok "null"
  | .bool b => .ok (if b then "true" else "false")
  | .int n => int n
  | .real x => .ok (String.ofList (real x))
  | .bytes _ => .error (.key "bytes")
  | .date _ => .error (.key "date")
  | .moment _ _ => .error (.key "datetime")
  | .list _ => .error (.key "list")
  | .map _ | .table _ => .error (.key "dict")
  | .set _ => .error (.key "set")
  | .pair _ _ => .error (.key "tuple")
  | .shared _ v => keyText v
  | .again _ _ => .error .loop
  | .torn _ => .error .torn

mutual

/-- The value as text. -/
def write (d : Depth) : Value → Except Obstacle (List Char)
  | .null => .ok "null".toList
  | .bool true => .ok "true".toList
  | .bool false => .ok "false".toList
  | .int n => (int n).map String.toList
  | .real x => .ok (real x)
  | .str s => .ok (text s)
  | .list items => (writeItems d.next items).map (bracketed d '[' ']')
  | .map fields => (writeFields d.next fields).map (bracketed d '\x7b' '\x7d')
  | .bytes _ => .error (.value "bytes")
  | .date _ => .error (.value "date")
  | .moment _ _ => .error (.value "datetime")
  | .set _ => .error (.value "set")
  | .pair a b => do
    let x ← write d.next a
    let y ← write d.next b
    pure (bracketed d '[' ']' [x, y])
  | .table entries => (writeEntries d.next entries).map (bracketed d '\x7b' '\x7d')
  | .shared _ v => write d v
  | .again _ _ => .error .loop
  | .torn _ => .error .torn

/-- The items of a list. -/
def writeItems (d : Depth) : List Value → Except Obstacle (List (List Char))
  | [] => .ok []
  | v :: vs => do
    let x ← write d v
    let xs ← writeItems d vs
    pure (x :: xs)

/-- The fields of a map. -/
def writeFields (d : Depth) : List (String × Value) → Except Obstacle (List (List Char))
  | [] => .ok []
  | (k, v) :: fs => do
    let x ← write d v
    let xs ← writeFields d fs
    pure ((text k ++ colon d ++ x) :: xs)

/-- The entries of a mapping whose keys need not be texts. -/
def writeEntries (d : Depth) : List (Value × Value) → Except Obstacle (List (List Char))
  | [] => .ok []
  | (k, v) :: es => do
    let key ← keyText k
    let x ← write d v
    let xs ← writeEntries d es
    pure ((text key ++ colon d ++ x) :: xs)

end

/-- The value with one item a line. -/
def pretty (v : Value) : Except Obstacle String := (write (some 0) v).map String.ofList

/-- The value on one line, or nothing if it cannot be written. -/
def compact (v : Value) : String := match write none v with
  | .ok cs => String.ofList cs
  | .error e => e.message

end ApiContract.Json
