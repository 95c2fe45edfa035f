import ApiContract.Files.Path
import ApiContract.Number.Numeral
import ApiContract.Value

/-!
What plain scalars of YAML 1.1 stand for. A word that looks like a truth value, a number, a moment
or nothing at all is one; every other word is a text. Numbers may have underscores, whole numbers
may be written in base two, eight, ten, sixteen and sixty.
-/

namespace ApiContract.Yaml

open ApiContract.Number
open ApiContract.Files (splitAt)

/-- The kinds of plain scalars. -/
inductive Kind where
  | bool | real | int | merge | null | time | value | mark | text
  deriving Repr, DecidableEq

/-- The words for truth values. -/
def trueWords : List String := ["yes", "Yes", "YES", "true", "True", "TRUE", "on", "On", "ON"]

/-- The words for falsehood. -/
def falseWords : List String := ["no", "No", "NO", "false", "False", "FALSE", "off", "Off", "OFF"]

/-- The words for nothing. -/
def nullWords : List String := ["", "~", "null", "Null", "NULL"]

/-- The words for infinity. -/
def infinityWords : List String := [".inf", ".Inf", ".INF"]

/-- The words for what is no number. -/
def nanWords : List String := [".nan", ".NaN", ".NAN"]

/-- A digit or an underscore. -/
def isDigitOrBar (c : Char) : Bool := c.isDigit || c == '_'

/-- A run of digits and underscores that begins with a digit. -/
def isNumeral : List Char → Bool
  | c :: cs => c.isDigit && cs.all isDigitOrBar
  | [] => false

/-- A signed exponent, or nothing. -/
def isExponent : List Char → Bool
  | [] => true
  | e :: s :: ds =>
    (e == 'e' || e == 'E') && (s == '-' || s == '+') && !ds.isEmpty && ds.all Char.isDigit
  | _ => false

/-- One of the lower places of a number in base sixty. -/
def isSixtieth : List Char → Bool
  | [d] => d.isDigit
  | [d, e] => '0' ≤ d && d ≤ '5' && e.isDigit
  | _ => false

/-- A number in base ten with a fraction. -/
def isDecimal (cs : List Char) : Bool :=
  match cs.span (· ≠ '.') with
  | (whole, _ :: rest) => isNumeral whole && isExponent (rest.dropWhile isDigitOrBar)
  | _ => false

/-- A number with a fraction, after its sign. -/
def isUnsignedReal (cs : List Char) : Bool :=
  isDecimal cs ||
    match cs.span (· ≠ '.') with
    | (whole, _ :: fraction) => match splitAt ':' whole with
      | top :: low => isNumeral top && !low.isEmpty && low.all isSixtieth && fraction.all isDigitOrBar
      | [] => false
    | _ => false

/-- A number that need not be whole. -/
def isReal (s : String) : Bool :=
  let cs := (readSign s.toList).2
  isUnsignedReal cs || infinityWords.contains (String.ofList cs) || nanWords.contains s ||
    match s.toList with
    | '.' :: rest => isNumeral (rest.takeWhile isDigitOrBar) && isExponent (rest.dropWhile isDigitOrBar)
    | _ => false

/-- A digit in base sixteen, or an underscore. -/
def isHexOrBar (c : Char) : Bool :=
  c.isDigit || ('a' ≤ c && c ≤ 'f') || ('A' ≤ c && c ≤ 'F') || c == '_'

/-- A whole number, after its sign. -/
def isUnsignedInt : List Char → Bool
  | '0' :: 'b' :: cs => !cs.isEmpty && cs.all fun c => c == '0' || c == '1' || c == '_'
  | '0' :: 'x' :: cs => !cs.isEmpty && cs.all isHexOrBar
  | '0' :: cs => cs.all fun c => ('0' ≤ c && c ≤ '7') || c == '_'
  | cs => match splitAt ':' cs with
    | top :: low => isNumeral top && low.all isSixtieth
    | [] => false

/-- A whole number. -/
def isInt (s : String) : Bool := isUnsignedInt (readSign s.toList).2

/-! ### Moments -/

/-- Digits at the front, between `low` and `high` of them. -/
def cutDigits (low high : Nat) (cs : List Char) : Option (Nat × List Char) :=
  let ds := (cs.take high).takeWhile Char.isDigit
  if low ≤ ds.length then
    some (ofDigits 10 (ds.map fun c => c.toNat - '0'.toNat), cs.drop ds.length)
  else none

/-- What follows a character at the front. -/
def cutChar (c : Char) : List Char → Option (List Char)
  | d :: cs => if d = c then some cs else none
  | [] => none

/-- A blank within a moment. -/
def isGap (c : Char) : Bool := c == ' ' || c == '\t'

/-- The distance from universal time, in seconds. -/
def readOffset (cs : List Char) : Option (Option Int) :=
  match cs.dropWhile isGap with
  | [] => if cs.isEmpty then some none else none
  | ['Z'] => some (some 0)
  | s :: rest => do
    guard (s = '-' ∨ s = '+')
    let (hours, rest) ← cutDigits 1 2 rest
    let minutes ← match rest with
      | [] => some 0
      | rest => do
        let (m, rest) ← cutDigits 2 2 (← cutChar ':' rest)
        guard rest.isEmpty
        pure m
    let seconds : Int := hours * 3600 + minutes * 60
    pure (some (if s = '-' then -seconds else seconds))

/-- The microseconds that a fraction stands for; further digits are dropped. -/
def microseconds (ds : List Char) : Nat :=
  ofDigits 10 (((ds ++ List.replicate 6 '0').take 6).map fun c => c.toNat - '0'.toNat)

/-- A time of day, after the gap before it. -/
def readTime (cs : List Char) : Option TimeOfDay := do
  let (hour, cs) ← cutDigits 1 2 cs
  let (minute, cs) ← cutDigits 2 2 (← cutChar ':' cs)
  let (second, cs) ← cutDigits 2 2 (← cutChar ':' cs)
  let (fraction, cs) := match cs with
    | '.' :: rest => (rest.takeWhile Char.isDigit, rest.dropWhile Char.isDigit)
    | cs => ([], cs)
  let offset ← readOffset cs
  pure ⟨hour, minute, second, microseconds fraction, offset⟩

/-- A day, perhaps with a time of day. Whether there is such a day is not asked. -/
def readMoment (cs : List Char) : Option (Date × Option TimeOfDay) := do
  let (year, cs) ← cutDigits 4 4 cs
  let (month, cs) ← cutDigits 1 2 (← cutChar '-' cs)
  let (day, cs) ← cutDigits 1 2 (← cutChar '-' cs)
  match cs with
  | [] => pure (⟨year, month, day⟩, none)
  | c :: rest =>
    guard (c = 'T' ∨ c = 't' ∨ isGap c)
    let t ← readTime (if isGap c then rest.dropWhile isGap else rest)
    pure (⟨year, month, day⟩, some t)

/-- Whether a word looks like a moment. Without a time the month and the day have two digits each. -/
def isMoment (s : String) : Bool :=
  match readMoment s.toList with
  | some (_, none) => s.length == 10
  | some (_, some _) => true
  | none => false

/-- The kind of a plain scalar. -/
def Kind.ofText (s : String) : Kind :=
  if trueWords.contains s || falseWords.contains s then .bool
  else if isReal s then .real
  else if isInt s then .int
  else if s = "<<" then .merge
  else if nullWords.contains s then .null
  else if isMoment s then .time
  else if s = "=" then .value
  else if s = "!" ∨ s = "&" ∨ s = "*" then .mark
  else .text

/-- A text without a line feed at its end, unless it is nothing else. -/
def withoutLastFeed (s : String) : String :=
  match s.toList.reverse with
  | '\n' :: c :: cs => String.ofList (c :: cs).reverse
  | _ => s

/-- The kind of a scalar that is to be taken as a plain one, however it is written. A line feed at its
end does not count. -/
def Kind.ofScalar (s : String) : Kind := Kind.ofText (withoutLastFeed s)

end ApiContract.Yaml
