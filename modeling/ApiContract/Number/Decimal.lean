import ApiContract.Number.Binary64
import ApiContract.Number.Numeral
import ApiContract.Text.LetterCase

/-!
Numbers in other bases, numbers with fractions in text, and sums of numbers in base sixty.
-/

namespace ApiContract.Number

open ApiContract.Text

/-- The value of a letter or digit below thirty-six. -/
def letterValue? (c : Char) : Option Nat :=
  if 'a' ≤ c ∧ c ≤ 'z' then some (c.toNat - 87)
  else if 'A' ≤ c ∧ c ≤ 'Z' then some (c.toNat - 55)
  else digitValue? c

/-- The value of a digit in a base. -/
def digitIn? (base : Nat) (c : Char) : Option Nat := (letterValue? c).filter (· < base)

/-- The letter that may stand after a zero in front of a number in a base. -/
def baseLetter? : Nat → Option Char
  | 2 => some 'b'
  | 8 => some 'o'
  | 16 => some 'x'
  | _ => none

/-- The digits after a zero and the letter of the base, if those are there. -/
def dropBaseMark (base : Nat) (cs : List Char) : List Char :=
  match cs, baseLetter? base with
  | '0' :: c :: rest, some l =>
    if lowerAscii c == l then
      match rest with
      | '_' :: rest => rest
      | rest => rest
    else cs
  | _, _ => cs
where
  /-- A letter of ASCII in its small form. -/
  lowerAscii (c : Char) : Char := c.toLower

/-- Why a text is no whole number. -/
inductive NumeralFault where
  | malformed
  | tooLong (digits : Nat)
  deriving Repr, DecidableEq

/-- The whole number that a text stands for in a base. Only in base ten the number of digits is
limited. -/
def readIntIn (base : Nat) (s : String) : Except NumeralFault Int :=
  let (negative, cs) := readSign (trim isBlank s.toList)
  match readDigits (digitIn? base) (dropBaseMark base cs) with
  | none => .error .malformed
  | some ds =>
    if base = 10 ∧ digitLimit < ds.length then .error (.tooLong ds.length)
    else
      let n : Int := ofDigits base ds
      .ok (if negative then -n else n)

/-- The digits of a part of a number, which may be empty. -/
def readPart? (cs : List Char) : Option (List Nat) :=
  if cs.isEmpty then some [] else readDigits digitValue? cs

/-- An exponent, which is zero if it is absent. -/
def readExponent? : List Char → Option Int
  | [] => some 0
  | e :: cs => do
    guard (e = 'e' ∨ e = 'E')
    let (negative, cs) := readSign cs
    let n : Int := ofDigits 10 (← readDigits digitValue? cs)
    pure (if negative then -n else n)

/-- A character that ends the digits in front of an exponent. -/
def isExponentMark (c : Char) : Bool := c == 'e' || c == 'E'

/-- A number with a fraction and an exponent, each of which may be absent. -/
def readUnsigned? (negative : Bool) (cs : List Char) : Option Binary64 := do
  let mantissa := cs.takeWhile (!isExponentMark ·)
  let exponent ← readExponent? (cs.dropWhile (!isExponentMark ·))
  let whole := mantissa.takeWhile (· != '.')
  let fraction := (mantissa.dropWhile (· != '.')).drop 1
  guard (!whole.isEmpty || !fraction.isEmpty)
  let ws ← readPart? whole
  let fs ← readPart? fraction
  pure (Binary64.ofDecimal negative (ofDigits 10 (ws ++ fs)) (exponent - fs.length))

/-- The number that a text stands for. -/
def readReal? (s : String) : Option Binary64 :=
  let (negative, cs) := readSign (trim isBlank s.toList)
  match lower (String.ofList cs) with
  | "inf" | "infinity" => some (if negative then Binary64.infinity.neg else .infinity)
  | "nan" => some .nan
  | _ => readUnsigned? negative cs

/-- The number in base sixty whose places are given, most significant first: the places are added
up from the least significant one on. The value of each place must be in the range of the numbers. -/
def sumSixtieths (places : List Binary64) : Option Binary64 :=
  (go 0 1 places.reverse).map fun x => ⟨x.toBits⟩
where
  /-- The sum with further places, of which the first one has the given value. -/
  go (sum : Float) (unit : Nat) : List Binary64 → Option Float
    | [] => some sum
    | x :: xs =>
      let u := Binary64.ofDecimal false unit 0
      if u.isInfinite then none
      else go (sum + Float.ofBits x.bits * Float.ofBits u.bits) (unit * 60) xs

end ApiContract.Number
