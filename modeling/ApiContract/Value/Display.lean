import ApiContract.Number.Numeral
import ApiContract.Text.Quoted
import ApiContract.Value.Sharing

/-!
Values as messages show them: texts in quotes, lists in brackets, maps in braces, and what has no
notation of its own as the call that makes it.
-/

namespace ApiContract.Value

open ApiContract.Text ApiContract.Number

/-- A byte between quotes. -/
def byteChar (quote : Char) (b : UInt8) : List Char :=
  let c := Char.ofNat b.toNat
  if c = quote ∨ c = '\\' then ['\\', c]
  else if c = '\t' then ['\\', 't']
  else if c = '\n' then ['\\', 'n']
  else if c = '\r' then ['\\', 'r']
  else if 0x20 ≤ b ∧ b < 0x7f then [c]
  else '\\' :: 'x' :: hex 2 b.toNat

/-- Bytes in quotes. -/
def quotedBytes (bs : List UInt8) : String :=
  let q := quoteFor (bs.map fun b => Char.ofNat b.toNat)
  String.ofList ('b' :: q :: bs.flatMap (byteChar q) ++ [q])

/-- Numbers in parentheses after a name. -/
def called (name : String) (args : List String) : String :=
  name ++ "(" ++ ", ".intercalate args ++ ")"

/-- A distance from universal time. -/
def shownOffset (seconds : Int) : String :=
  if seconds = 0 then "datetime.timezone.utc"
  else
    let span := if seconds < 0 then
        ["days=-1", "seconds=" ++ intText (86400 + seconds)]
      else ["seconds=" ++ intText seconds]
    called "datetime.timezone" [called "datetime.timedelta" span]

/-- A day and a time of day. Seconds and microseconds are left out at the end if they are zero. -/
def shownMoment (d : Date) (t : TimeOfDay) : String :=
  let small := if t.microsecond = 0 then if t.second = 0 then [] else [t.second]
    else [t.second, t.microsecond]
  called "datetime.datetime" (([d.year, d.month, d.day, t.hour, t.minute] ++ small).map Nat.repr ++
    (t.offset.map fun s => "tzinfo=" ++ shownOffset s).toList)

/-- The place of a thing within itself in a message. -/
def dots (isList : Bool) : String := if isList then "[...]" else "\x7b...\x7d"

mutual

/-- The value in a message, within some things. A thing within itself is shown as three points. -/
def shownIn (around : List Identity) : Value → String
  | null => "None"
  | bool b => if b then "True" else "False"
  | int n => intText n
  | real x => String.ofList x.text
  | str s => quoted s
  | torn t => t.quoted
  | list vs => "[" ++ ", ".intercalate (shownAll around vs) ++ "]"
  | map fs => "\x7b" ++ ", ".intercalate (shownFields around fs) ++ "\x7d"
  | bytes bs => quotedBytes bs
  | date d => called "datetime.date" ([d.year, d.month, d.day].map Nat.repr)
  | moment d t => shownMoment d t
  | set [] => "set()"
  | set (v :: vs) => "\x7b" ++ ", ".intercalate (shownIn around v :: shownAll around vs) ++ "\x7d"
  | pair a b => "(" ++ shownIn around a ++ ", " ++ shownIn around b ++ ")"
  | table es => "\x7b" ++ ", ".intercalate (shownEntries around es) ++ "\x7d"
  | shared id v =>
    if around.contains id then dots v.isList else shownIn (id :: around) v
  | again _ l => dots l

/-- Values in a message. -/
def shownAll (around : List Identity) : List Value → List String
  | [] => []
  | v :: vs => shownIn around v :: shownAll around vs

/-- Fields in a message. -/
def shownFields (around : List Identity) : List (String × Value) → List String
  | [] => []
  | (k, v) :: fs => (quoted k ++ ": " ++ shownIn around v) :: shownFields around fs

/-- Entries in a message. -/
def shownEntries (around : List Identity) : List (Value × Value) → List String
  | [] => []
  | (k, v) :: es => (shownIn around k ++ ": " ++ shownIn around v) :: shownEntries around es

end

mutual

/-- Whether a value holds a whole number with too many digits to be written. -/
def hasLongInt : Value → Bool
  | int n => isLong n
  | list vs => hasLongIntAll vs
  | map fs => hasLongIntFields fs
  | set vs => hasLongIntAll vs
  | pair a b => a.hasLongInt || b.hasLongInt
  | table es => hasLongIntEntries es
  | shared _ v => v.hasLongInt
  | _ => false

/-- Whether values hold such a number. -/
def hasLongIntAll : List Value → Bool
  | [] => false
  | v :: vs => v.hasLongInt || hasLongIntAll vs

/-- Whether fields hold such a number. -/
def hasLongIntFields : List (String × Value) → Bool
  | [] => false
  | (_, v) :: fs => v.hasLongInt || hasLongIntFields fs

/-- Whether entries hold such a number. -/
def hasLongIntEntries : List (Value × Value) → Bool
  | [] => false
  | (k, v) :: es => k.hasLongInt || v.hasLongInt || hasLongIntEntries es

end

/-- The name of the kind of a value. -/
def kind : Value → String
  | null => "NoneType"
  | bool _ => "bool"
  | int _ => "int"
  | real _ => "float"
  | str _ | torn _ => "str"
  | list _ => "list"
  | map _ | table _ => "dict"
  | bytes _ => "bytes"
  | date _ => "date"
  | moment _ _ => "datetime"
  | set _ => "set"
  | pair _ _ => "tuple"
  | shared _ v => v.kind
  | again _ l => if l then "list" else "dict"

/-- The value in a message. A value with a number that cannot be written has its kind told alone. -/
def shown (v : Value) : String :=
  if v.hasLongInt then "<unprintable " ++ v.kind ++ " object>" else shownIn [] v

/-- The name of the kind of a value with the module that it belongs to. -/
def fullKind : Value → String
  | date _ => "datetime.date"
  | moment _ _ => "datetime.datetime"
  | shared _ v => v.fullKind
  | v => v.kind

end ApiContract.Value
