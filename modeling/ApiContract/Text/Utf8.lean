import ApiContract.Text.Quoted

/-!
UTF-8. Bytes are cut into pieces: characters, and flaws, each the longest beginning of a character
that goes wrong. A strict reader stops at the first flaw and says where it is; a lenient one puts
the replacement character in the place of each flaw.
-/

namespace ApiContract.Text

/-- What is wrong with a sequence of bytes that is no character. -/
inductive Flaw where
  | invalidStart | invalidContinuation | unexpectedEnd
  deriving Repr, DecidableEq

/-- The flaw in words. -/
def Flaw.reason : Flaw → String
  | .invalidStart => "invalid start byte"
  | .invalidContinuation => "invalid continuation byte"
  | .unexpectedEnd => "unexpected end of data"

/-- A piece of a byte sequence: a character, or bytes that make none. -/
inductive Piece where
  | char (c : Char)
  | flaw (f : Flaw) (bytes : List UInt8)

/-- How many bytes follow the first byte of a character. -/
def tailLength? (lead : UInt8) : Option Nat :=
  if lead < 0x80 then some 0
  else if lead < 0xc2 then none
  else if lead < 0xe0 then some 1
  else if lead < 0xf0 then some 2
  else if lead < 0xf5 then some 3
  else none

/-- A byte that may stand anywhere but first. -/
def isContinuation (b : UInt8) : Bool := 0x80 ≤ b && b < 0xc0

/-- Whether `b` may be the second byte after `lead`. The first bytes `e0` and `f0` exclude overlong
forms, `ed` the surrogates and `f4` what lies beyond the last code point. -/
def mayFollow (lead b : UInt8) : Bool :=
  isContinuation b &&
    (if lead == 0xe0 then 0xa0 ≤ b
     else if lead == 0xed then b < 0xa0
     else if lead == 0xf0 then 0x90 ≤ b
     else if lead == 0xf4 then b < 0x90
     else true)

/-- The bytes after `lead` that fit it, at most `n` of them. -/
def fittingTail (lead : UInt8) (n : Nat) (bytes : List UInt8) : List UInt8 :=
  match bytes.take n with
  | [] => []
  | b :: t => if mayFollow lead b then b :: t.takeWhile isContinuation else []

/-- The code point that a first byte and its tail stand for. -/
def codePoint (lead : UInt8) (tail : List UInt8) : Nat :=
  let head := match tail.length with
    | 0 => lead.toNat
    | 1 => lead.toNat % 32
    | 2 => lead.toNat % 16
    | _ => lead.toNat % 8
  tail.foldl (fun n b => n * 64 + b.toNat % 64) head

/-- The first piece of a non-empty byte sequence, and how many bytes of `bytes` belong to it. -/
def firstPiece (lead : UInt8) (bytes : List UInt8) : Piece × Nat :=
  match tailLength? lead with
  | none => (.flaw .invalidStart [lead], 0)
  | some n =>
    let tail := fittingTail lead n bytes
    if tail.length = n then (.char (Char.ofNat (codePoint lead tail)), n)
    else
      (.flaw (if (bytes.drop tail.length).isEmpty then .unexpectedEnd else .invalidContinuation)
        (lead :: tail), tail.length)

/-- The pieces of a byte sequence. -/
def pieces : List UInt8 → List Piece
  | [] => []
  | b :: bytes =>
    let p := firstPiece b bytes
    p.1 :: pieces (bytes.drop p.2)
  termination_by bytes => bytes.length
  decreasing_by simp only [List.length_drop, List.length_cons]; omega

/-- The text, with the replacement character for each flaw. -/
def decodeLenient (bytes : List UInt8) : List Char :=
  (pieces bytes).map fun
    | .char c => c
    | .flaw _ _ => '\ufffd'

/-- Bytes that are no UTF-8: the first flaw, its bytes and the position of the first of them. -/
structure Undecodable where
  flaw : Flaw
  bytes : List UInt8
  position : Nat
  deriving Repr, DecidableEq

/-- The message about undecodable bytes. -/
def Undecodable.message (u : Undecodable) : String :=
  let place := match u.bytes with
    | [b] => "byte 0x" ++ String.ofList (hex 2 b.toNat) ++ " in position " ++ toString u.position
    | bs => "bytes in position " ++ toString u.position ++ "-" ++
        toString (u.position + bs.length - 1)
  "'utf-8' codec can't decode " ++ place ++ ": " ++ u.flaw.reason

/-- The characters of the pieces, where `position` bytes come before them. -/
def decodePieces (position : Nat) : List Piece → Except Undecodable (List Char)
  | [] => .ok []
  | .char c :: ps => (decodePieces (position + c.utf8Size) ps).map (c :: ·)
  | .flaw f bytes :: _ => .error ⟨f, bytes, position⟩

/-- The text that the bytes encode. -/
def decodeStrict (bytes : List UInt8) : Except Undecodable (List Char) :=
  decodePieces 0 (pieces bytes)

/-- The bytes of a character. -/
def encodeChar (c : Char) : List UInt8 :=
  let n := c.toNat
  let low (k : Nat) : UInt8 := UInt8.ofNat (0x80 + n / Nat.pow 64 k % 64)
  if n < 0x80 then [UInt8.ofNat n]
  else if n < 0x800 then [UInt8.ofNat (0xc0 + n / 64), low 0]
  else if n < 0x10000 then [UInt8.ofNat (0xe0 + n / 4096), low 1, low 0]
  else [UInt8.ofNat (0xf0 + n / 262144), low 2, low 1, low 0]

/-- The bytes of a text. -/
def encode (cs : List Char) : List UInt8 := cs.flatMap encodeChar

end ApiContract.Text
