/-!
Base 64: four characters of the alphabet for three bytes, filled up with equals signs.
-/

namespace ApiContract.Text

/-- The characters of the alphabet in the order of their values. -/
def base64Alphabet : List Char :=
  "ABCDEFGHIJKLMNOPQRSTUVWXYZabcdefghijklmnopqrstuvwxyz0123456789+/".toList

/-- The value of a character of the alphabet. -/
def base64Value? (c : Char) : Option Nat := base64Alphabet.idxOf? c

/-- The bytes that lists of six-bit values stand for, four values at a time. -/
def sextetBytes : List Nat → List UInt8
  | a :: b :: c :: d :: rest =>
    UInt8.ofNat (a * 4 + b / 16) :: UInt8.ofNat (b % 16 * 16 + c / 4) ::
      UInt8.ofNat (c % 4 * 64 + d) :: sextetBytes rest
  | [a, b, c] => [UInt8.ofNat (a * 4 + b / 16), UInt8.ofNat (b % 16 * 16 + c / 4)]
  | [a, b] => [UInt8.ofNat (a * 4 + b / 16)]
  | _ => []

/-- The bytes of a text in base 64. Characters outside the alphabet are passed over, and the text
ends at the first equals sign. -/
def base64Decode (cs : List Char) : List UInt8 :=
  sextetBytes ((cs.takeWhile (· != '=')).filterMap base64Value?)

/-- The values of a text up to its end, after `before` other ones and `pads` equals signs. The end is
where equals signs fill up a group of four, or the end of the text after a whole group. -/
def base64Sextets? (before pads : Nat) : List Char → Option (List Nat)
  | [] => if before % 4 = 0 then some [] else none
  | c :: cs =>
    if c = '=' then
      if before % 4 < 2 then base64Sextets? before pads cs
      else if 4 ≤ before % 4 + pads + 1 then some []
      else base64Sextets? before (pads + 1) cs
    else match base64Value? c with
      | some n => (base64Sextets? (before + 1) 0 cs).map (n :: ·)
      | none => base64Sextets? before pads cs

/-- The bytes of a text in base 64 that is complete. -/
def base64Read? (cs : List Char) : Option (List UInt8) := (base64Sextets? 0 0 cs).map sextetBytes

/-- The character of a six-bit value. -/
def base64Char (n : Nat) : Char := base64Alphabet.getD n '='

/-- The text in base 64 of the bytes. -/
def base64Encode : List UInt8 → List Char
  | a :: b :: c :: rest =>
    base64Char (a.toNat / 4) :: base64Char (a.toNat % 4 * 16 + b.toNat / 16) ::
      base64Char (b.toNat % 16 * 4 + c.toNat / 64) :: base64Char (c.toNat % 64) ::
      base64Encode rest
  | [a, b] =>
    [base64Char (a.toNat / 4), base64Char (a.toNat % 4 * 16 + b.toNat / 16),
      base64Char (b.toNat % 16 * 4), '=']
  | [a] => [base64Char (a.toNat / 4), base64Char (a.toNat % 4 * 16), '=', '=']
  | [] => []

end ApiContract.Text
