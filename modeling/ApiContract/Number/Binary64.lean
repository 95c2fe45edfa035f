/-!
Binary floating-point numbers of 64 bits, held as their bits so that equality is decidable.
Decimal fractions are rounded to the nearest number, and a number is written with the fewest
decimal digits that are rounded back to it, of several such decimals the nearest one.
-/

namespace ApiContract

/-- A number in the binary format of 64 bits. -/
structure Binary64 where
  bits : UInt64
  deriving Repr, DecidableEq

namespace Binary64

/-- The sign bit. -/
def isNegative (x : Binary64) : Bool := x.bits >>> 63 == 1

/-- The eleven bits of the exponent. -/
def exponentBits (x : Binary64) : Nat := ((x.bits >>> 52) &&& 0x7ff).toNat

/-- The fifty-two bits of the fraction. -/
def fractionBits (x : Binary64) : Nat := (x.bits &&& 0xfffffffffffff).toNat

/-- A number that is none. -/
def isNaN (x : Binary64) : Bool := x.exponentBits == 0x7ff && x.fractionBits != 0

/-- One of the two infinities. -/
def isInfinite (x : Binary64) : Bool := x.exponentBits == 0x7ff && x.fractionBits == 0

/-- One of the two zeros. -/
def isZero (x : Binary64) : Bool := x.exponentBits == 0 && x.fractionBits == 0

/-- The value that is no number. -/
def nan : Binary64 := ⟨0x7ff8000000000000⟩

/-- The positive infinity. -/
def infinity : Binary64 := ⟨0x7ff0000000000000⟩

/-- The number with the other sign. -/
def neg (x : Binary64) : Binary64 := ⟨x.bits ^^^ 0x8000000000000000⟩

/-- A finite number without its sign is `mantissa * 2 ^ exponent`. The gap to the number below is
half the gap to the number above at a power of two. -/
structure Scaled where
  mantissa : Nat
  exponent : Int
  narrowBelow : Bool

/-- A finite number without its sign, exactly. -/
def scaled (x : Binary64) : Scaled :=
  if x.exponentBits = 0 then ⟨x.fractionBits, -1074, false⟩
  else ⟨0x10000000000000 + x.fractionBits, (x.exponentBits : Int) - 1075,
    x.fractionBits == 0 && 1 < x.exponentBits⟩

/-- The whole number that a number is, if it is one. -/
def toInt? (x : Binary64) : Option Int :=
  if x.isNaN || x.isInfinite then none
  else
    let s := x.scaled
    let magnitude? : Option Nat :=
      if 0 ≤ s.exponent then some (s.mantissa * Nat.pow 2 s.exponent.toNat)
      else
        let unit := Nat.pow 2 (-s.exponent).toNat
        if s.mantissa % unit = 0 then some (s.mantissa / unit) else none
    magnitude?.map fun n => if x.isNegative then -(n : Int) else n

/-- Compares `a * 10 ^ i` with `n * 2 ^ j`. -/
def compareScaled (a : Nat) (i : Int) (n : Nat) (j : Int) : Ordering :=
  compare (a * Nat.pow 10 i.toNat * Nat.pow 2 (-j).toNat)
    (n * Nat.pow 2 j.toNat * Nat.pow 10 (-i).toNat)

/-- Whether `digits * 10 ^ i` is rounded to the number: it lies between the midpoints to the two
neighbours, which belong to the number when its mantissa is even. -/
def Scaled.readsBack (x : Scaled) (digits : Nat) (i : Int) : Bool :=
  let low := if x.narrowBelow then 4 * x.mantissa - 1 else 4 * x.mantissa - 2
  let closed := x.mantissa % 2 == 0
  let atLow := compareScaled digits i low (x.exponent - 2)
  let atHigh := compareScaled digits i (4 * x.mantissa + 2) (x.exponent - 2)
  (atLow == .gt || (closed && atLow == .eq)) && (atHigh == .lt || (closed && atHigh == .eq))

/-- The greatest multiple of `10 ^ i` that is not above the number, counted in `10 ^ i`. -/
def Scaled.floorAt (x : Scaled) (i : Int) : Nat :=
  (x.mantissa * Nat.pow 2 x.exponent.toNat * Nat.pow 10 (-i).toNat) /
    (Nat.pow 2 (-x.exponent).toNat * Nat.pow 10 i.toNat)

/-- The nearest multiple of `10 ^ i` that reads back; of two equally near ones the even one. -/
def Scaled.candidate? (x : Scaled) (i : Int) : Option Nat :=
  let d := x.floorAt i
  match x.readsBack d i, x.readsBack (d + 1) i with
  | false, false => none
  | true, false => some d
  | false, true => some (d + 1)
  | true, true =>
    match compareScaled (2 * d + 1) i (2 * x.mantissa) x.exponent with
    | .lt => some (d + 1)
    | .gt => some d
    | .eq => some (if d % 2 = 0 then d else d + 1)

/-- The least `k`, between a guess and a bound, with the number below `10 ^ k`. -/
def Scaled.magnitude (x : Scaled) : Int :=
  let start : Int := (((x.mantissa.log2 : Int) + x.exponent) * 30103).fdiv 100000
  let ks := [start, start + 1, start + 2]
  (ks.find? fun k => compareScaled 1 k x.mantissa x.exponent == .gt).getD (start + 3)

/-- The digits and the power of ten of the shortest decimal that reads back. Seventeen digits
always do; should none be found, the exact value is given. -/
def Scaled.shortest (x : Scaled) : Nat × Int :=
  let k := x.magnitude
  let found := (List.range 17).findSome? fun n =>
    let i := k - (n + 1 : Nat)
    (x.candidate? i).map (·, i)
  found.getD (x.mantissa * Nat.pow 2 x.exponent.toNat * Nat.pow 5 (-x.exponent).toNat,
    if x.exponent < 0 then x.exponent else 0)

/-- The number without trailing zeros, and how many there were. -/
def stripZeros : (fuel : Nat) → Nat → Int → Nat × Int
  | 0, d, i => (d, i)
  | f + 1, d, i => if d ≠ 0 ∧ d % 10 = 0 then stripZeros f (d / 10) (i + 1) else (d, i)

/-- The digits of a number in base ten. -/
def digits (n : Nat) : List Char := (Nat.repr n).toList

/-- The decimal `d * 10 ^ i` in words: positional from `0.0001` to below `10 ^ 16`, always with a
point, and otherwise with a signed exponent of at least two digits. -/
def layout (d : Nat) (i : Int) : List Char :=
  let ds := digits d
  let e : Int := i + ds.length - 1
  if -4 ≤ e ∧ e < 16 then
    if 0 ≤ i then ds ++ List.replicate i.toNat '0' ++ ['.', '0']
    else if 0 ≤ e then ds.take (e.toNat + 1) ++ '.' :: ds.drop (e.toNat + 1)
    else '0' :: '.' :: List.replicate (-e - 1).toNat '0' ++ ds
  else
    let point := match ds with
      | [] => []
      | [c] => [c]
      | c :: cs => c :: '.' :: cs
    let ex := digits e.natAbs
    point ++ 'e' :: (if e < 0 then '-' else '+') :: (if ex.length < 2 then '0' :: ex else ex)

/-- The text of a number, with the names of the special values given. -/
def textWith (nanText infinityText : List Char) (x : Binary64) : List Char :=
  if x.isNaN then nanText
  else
    (if x.isNegative then ['-'] else []) ++
      (if x.isInfinite then infinityText
       else if x.isZero then ['0', '.', '0']
       else
         let s := x.scaled.shortest
         let z := stripZeros 800 s.1 s.2
         layout z.1 z.2)

/-- The text of a number. -/
def text (x : Binary64) : List Char := textWith "nan".toList "inf".toList x

/-- The number nearest to `mantissa * 10 ^ exponent`. Exponents far outside the format's range are
answered at once. -/
def ofDecimal (negative : Bool) (mantissa : Nat) (exponent : Int) : Binary64 :=
  let size : Int := exponent + (digits mantissa).length
  let magnitude : Binary64 :=
    if mantissa = 0 ∨ size < -340 then ⟨0⟩
    else if 320 < size then infinity
    else ⟨(Float.ofScientific mantissa (exponent < 0) exponent.natAbs).toBits⟩
  if negative then magnitude.neg else magnitude

end Binary64

end ApiContract
