import ApiContract.Text.Blank
import ApiContract.Text.DecimalDigit

/-!
Whole numbers in text: blanks around it are passed over, a sign may come first, and single
underscores may stand between digits. Digits of every script count, at most 4300 of them.
-/

namespace ApiContract.Number

open ApiContract.Text

/-- The number that digits stand for, most significant first. -/
def ofDigits (base : Nat) (ds : List Nat) : Nat := ds.foldl (fun n d => n * base + d) 0

/-- The digits of a text of digits and single underscores between them. -/
def readDigits (value? : Char → Option Nat) : List Char → Option (List Nat)
  | [] => none
  | [c] => (value? c).map ([·])
  | c :: '_' :: cs => do
    let d ← value? c
    let ds ← readDigits value? cs
    pure (d :: ds)
  | c :: cs => do
    let d ← value? c
    let ds ← readDigits value? cs
    pure (d :: ds)

/-- The most digits that a number may have. -/
def digitLimit : Nat := 4300

/-- A sign and what comes after it. -/
def readSign : List Char → Bool × List Char
  | '-' :: cs => (true, cs)
  | '+' :: cs => (false, cs)
  | cs => (false, cs)

/-- The whole number that a text stands for. -/
def readInt? (s : String) : Option Int := do
  let (negative, cs) := readSign (trim isBlank s.toList)
  let ds ← readDigits digitValue? cs
  guard (ds.length ≤ digitLimit)
  let n : Int := ofDigits 10 ds
  pure (if negative then -n else n)

/-- The whole number as text. -/
def intText (n : Int) : String := match n with
  | .ofNat k => Nat.repr k
  | .negSucc k => "-" ++ Nat.repr (k + 1)

/-- Whether a whole number has more digits than can be written. -/
def isLong (n : Int) : Bool := Nat.pow 10 digitLimit ≤ n.natAbs

/-- The message about a whole number that has too many digits to be written. -/
def unwritableInt : String :=
  "Exceeds the limit (" ++ Nat.repr digitLimit ++
    " digits) for integer string conversion; use sys.set_int_max_str_digits() to increase the limit"

end ApiContract.Number
