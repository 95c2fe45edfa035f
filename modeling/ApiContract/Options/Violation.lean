import ApiContract.Text.Utf8
import ApiContract.Value.Display

/-!
What is wrong with options: a list of violations, each with the place of the value, the problem and
the value. All problems are told at once, in the order of the fields.
-/

namespace ApiContract

open ApiContract.Text ApiContract.Number

/-- What is wrong with a value. -/
inductive Problem where
  | noString | noUnicode | tooShort | noBool | unclearBool | noMap
  | noModel (name : String)
  | noMethod
  | invalid (message : String)
  | frozen
  deriving Repr, DecidableEq

namespace Problem

/-- The code of a problem. -/
def code : Problem → String
  | noString => "string_type"
  | noUnicode => "string_unicode"
  | tooShort => "string_too_short"
  | noBool => "bool_type"
  | unclearBool => "bool_parsing"
  | noMap => "dict_type"
  | noModel _ => "model_type"
  | noMethod => "literal_error"
  | invalid _ => "value_error"
  | frozen => "frozen_instance"

/-- The problem in words. -/
def message : Problem → String
  | noString => "Input should be a valid string"
  | noUnicode => "Input should be a valid string, unable to parse raw data as a unicode string"
  | tooShort => "String should have at least 1 character"
  | noBool => "Input should be a valid boolean"
  | unclearBool => "Input should be a valid boolean, unable to interpret input"
  | noMap => "Input should be a valid dictionary"
  | noModel n => "Input should be a valid dictionary or instance of " ++ n
  | noMethod => "Input should be 'get', 'post', 'put', 'delete' or 'patch'"
  | invalid m => "Value error, " ++ m
  | frozen => "Instance is frozen"

end Problem

/-- A step to a place in a value: a field or a number. -/
inductive Step where
  | field (name : String)
  | number (n : Int)
  deriving Repr, DecidableEq

/-- The step in words. A name that has points in it stands between grave accents. -/
def Step.text : Step → String
  | field s => if s.contains '.' then "`" ++ s ++ "`" else s
  | number n => intText n

/-- A violation. -/
structure Violation where
  place : List Step
  problem : Problem
  input : Value
  deriving Repr

/-- Whether a byte begins a character. -/
def beginsChar (b : UInt8) : Bool := !isContinuation b

/-- The longest text in a message, in bytes. -/
def shownLimit : Nat := 50

/-- A text of at most fifty bytes, or else its beginning and its end: whole characters in the first
twenty-five and in the last twenty-four bytes. -/
def abridge (s : String) : String :=
  let bs := encode s.toList
  if bs.length ≤ shownLimit then s
  else
    let front := (pieces (bs.take 25)).filterMap fun
      | .char c => some c
      | .flaw _ _ => none
    let back := decodeLenient ((bs.drop (bs.length - 24)).dropWhile (!beginsChar ·))
    String.ofList (front ++ ['.', '.', '.'] ++ back)

/-- The violation in words. -/
def Violation.text (v : Violation) : String :=
  (if v.place.isEmpty then "" else ".".intercalate (v.place.map Step.text) ++ "\n") ++ "  " ++
    v.problem.message ++ " [type=" ++ v.problem.code ++ ", input_value=" ++ abridge v.input.shown ++
    ", input_type=" ++ v.input.kind ++ "]"

/-- Values that are wrong for a model. -/
structure Violations where
  model : String
  list : List Violation
  deriving Repr

/-- The violations in words. -/
def Violations.message (v : Violations) : String :=
  let n := v.list.length
  Nat.repr n ++ " validation error" ++ (if n = 1 then "" else "s") ++ " for " ++ v.model ++ "\n" ++
    "\n".intercalate (v.list.map Violation.text)

/-- A value that is checked, or what is wrong with it. -/
abbrev Checked (α : Type) := Except (List Violation) α

/-- A function of a checked value, where the violations of both are told. -/
def Checked.ap {α β : Type} (f : Checked (α → β)) (x : Checked α) : Checked β :=
  match f, x with
  | .ok f, .ok a => .ok (f a)
  | .error u, .ok _ => .error u
  | .ok _, .error v => .error v
  | .error u, .error v => .error (u ++ v)

end ApiContract
