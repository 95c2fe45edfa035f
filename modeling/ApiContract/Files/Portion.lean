import ApiContract.Text.Utf8

/-!
The text of a file, as it is read bit by bit: bytes come in blocks, and characters are handed out in
portions. A block that is no UTF-8 spoils the portion for which it is read. The flaw in it is counted
from where the block begins, or the character that it goes on with. Every line ends in the same way.
-/

namespace ApiContract.Files

open ApiContract.Text

/-- A text where every line ends in the same way. -/
def unifyLines : List Char → List Char
  | '\r' :: '\n' :: cs => '\n' :: unifyLines cs
  | '\r' :: cs => '\n' :: unifyLines cs
  | c :: cs => c :: unifyLines cs
  | [] => []

/-- The portions of a text, as far as it can be decoded. -/
structure Portions where
  list : List (List Char)
  fault : Option Undecodable
  deriving Repr

/-- A file that is being read: the bytes that are left, those of a character that is not complete yet,
whether a line end may not be complete yet, the characters that are not handed out yet, and how many
characters the bytes of the last block made. -/
structure Supply where
  bytes : List UInt8
  begun : List UInt8
  atReturn : Bool
  text : List Char
  last : Nat × Nat
  deriving Repr

namespace Supply

/-- A file that is not read yet. -/
def start (bytes : List UInt8) : Supply := ⟨bytes, [], false, [], (0, 0)⟩

/-- The least size of a block. -/
def blockSize : Nat := 8192

/-- How many characters a portion has. -/
def portionSize : Nat := 4096

/-- The size of the next block when some characters are wanted: more than the usual one if characters
are long. -/
def nextSize (s : Supply) (wanted : Nat) : Nat := max blockSize (s.last.1 * wanted / s.last.2)

/-- The characters of pieces before which there are so many bytes, and the bytes at the end that are
not complete. There may be such bytes unless the file ends. -/
def decodeBlock (atEnd : Bool) (position : Nat) :
    List Piece → Except Undecodable (List Char × List UInt8)
  | [] => .ok ([], [])
  | .char c :: ps => (decodeBlock atEnd (position + c.utf8Size) ps).map fun (cs, bs) => (c :: cs, bs)
  | .flaw f bs :: _ =>
    if f = .unexpectedEnd ∧ ¬ atEnd then .ok ([], bs) else .error ⟨f, bs, position⟩

/-- The file after a block. -/
def takeBlock (s : Supply) (size : Nat) : Except Undecodable Supply := do
  let block := s.bytes.take size
  let atEnd := block.isEmpty
  let (cs, begun) ← decodeBlock atEnd 0 (pieces (s.begun ++ block))
  let cs := if s.atReturn && (atEnd || !cs.isEmpty) then '\r' :: cs else cs
  let held := !atEnd && cs.getLast? == some '\r'
  let cs := unifyLines (if held then cs.dropLast else cs)
  pure ⟨s.bytes.drop size, begun, held || (s.atReturn && cs.isEmpty && !atEnd), s.text ++ cs,
    (block.length, cs.length)⟩

/-- The file once there are characters for a portion, or no more bytes. At most `n` blocks are
needed. -/
def fill (s : Supply) : (n : Nat) → Except Undecodable Supply
  | 0 => .ok s
  | n + 1 =>
    if portionSize ≤ s.text.length then .ok s
    else if s.bytes.isEmpty then s.takeBlock 0
    else do
      let s ← s.takeBlock (s.nextSize (portionSize - s.text.length))
      s.fill n

/-- The portions that are left, of which there are at most `n`. -/
def portions (s : Supply) : (n : Nat) → Portions
  | 0 => ⟨[], none⟩
  | n + 1 => match s.fill (s.bytes.length + 1) with
    | .error u => ⟨[], some u⟩
    | .ok s =>
      if s.text.isEmpty then ⟨[], none⟩
      else
        let later := { s with text := s.text.drop portionSize }.portions n
        ⟨s.text.take portionSize :: later.list, later.fault⟩

end Supply

/-- The portions of the text in a file. -/
def Portions.ofBytes (bytes : List UInt8) : Portions := (Supply.start bytes).portions (bytes.length + 1)

end ApiContract.Files
