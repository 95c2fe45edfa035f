import ApiContract.Text.Ranges

/-!
Blanks: the characters that are dropped at the two ends of a text. Text has the Unicode white
space and the four information separators; raw bytes have the six blanks of ASCII.
-/

namespace ApiContract.Text

/-- The blanks of Unicode. -/
def blankRanges : List (Nat × Nat) :=
  [(0x09, 0x0d), (0x1c, 0x20), (0x85, 0x85), (0xa0, 0xa0), (0x1680, 0x1680), (0x2000, 0x200a),
   (0x2028, 0x2029), (0x202f, 0x202f), (0x205f, 0x205f), (0x3000, 0x3000)]

/-- A blank of Unicode. -/
def isBlank (c : Char) : Bool := inRanges blankRanges c.toNat

/-- A blank of ASCII. -/
def isBlankByte (b : UInt8) : Bool := b == 32 || (9 ≤ b && b ≤ 13)

/-- The list without the elements at both ends that satisfy `p`. -/
def trim {α : Type} (p : α → Bool) (l : List α) : List α := ((l.dropWhile p).reverse.dropWhile p).reverse

/-- The text without the blanks at its ends. -/
def strip (s : String) : String := String.ofList (trim isBlank s.toList)

end ApiContract.Text
