import ApiContract.Text.Letter
import ApiContract.Yaml.Scalar

/-!
How a text is laid out as a YAML scalar: plain if it would be read back as the same text, else in
single quotes, and in double quotes with escapes if nothing else will do. Long lines are folded at
single spaces once they are wider than eighty columns.
-/

namespace ApiContract.Yaml

open ApiContract.Text

/-! ### What may be written how -/

/-- A line break. -/
def isBreak (c : Char) : Bool := c == '\n' || c == '\x85' || c == '\u2028' || c == '\u2029'

/-- A character that stands apart from what is around it. -/
def isGapChar (c : Char) : Bool :=
  c == '\x00' || c == ' ' || c == '\t' || c == '\r' || isBreak c

/-- A character that is written as it is. -/
def isVisible (c : Char) : Bool :=
  let n := c.toNat
  c == '\n' || (0x20 ≤ n && n ≤ 0x7e) ||
    ((n == 0x85 || (0xa0 ≤ n && n ≤ 0xd7ff) || (0xe000 ≤ n && n ≤ 0xfffd) ||
      (0x10000 ≤ n && n < 0x10ffff)) && n != 0xfeff)

/-- Whether a gap or the end comes next. -/
def gapNext : List Char → Bool
  | [] => true
  | c :: _ => isGapChar c

/-- Whether the first character of a text means something else than itself. -/
def startsWithMark : List Char → Bool
  | [] => false
  | c :: rest =>
    "#,[]\x7b\x7d&*!|>'\"%@`".toList.contains c || ((c == '?' || c == ':' || c == '-') && gapNext rest)

/-- Whether a later character of a text means something else than itself: a colon before a gap, or a
hash sign after one. -/
def hasInnerMark (afterGap : Bool) : List Char → Bool
  | [] => false
  | c :: rest =>
    (c == ':' && gapNext rest) || (c == '#' && afterGap) || hasInnerMark (isGapChar c) rest

/-- Whether a text has marks that a plain scalar may not have. -/
def hasMarks (cs : List Char) : Bool :=
  ['-', '-', '-'].isPrefixOf cs || ['.', '.', '.'].isPrefixOf cs || startsWithMark cs ||
    match cs with
    | [] => false
    | c :: rest => hasInnerMark (isGapChar c) rest

/-- Whether two characters that follow each other satisfy `p` and `q`. -/
def hasPair (p q : Char → Bool) : List Char → Bool
  | c :: d :: rest => (p c && q d) || hasPair p q (d :: rest)
  | _ => false

/-- A space. -/
def isSpaceChar (c : Char) : Bool := c == ' '

/-- Whether a text has more than one line. -/
def isMultiline (cs : List Char) : Bool := cs.any isBreak

/-- Whether a text may be written without quotes. -/
def allowsPlain (cs : List Char) : Bool :=
  !cs.isEmpty && cs.all isVisible && !isMultiline cs && cs.head? != some ' ' &&
    cs.getLast? != some ' ' && !hasMarks cs

/-- Whether a text may be written in single quotes. -/
def allowsSingle (cs : List Char) : Bool :=
  cs.all isVisible && !hasPair isSpaceChar isBreak cs && !hasPair isBreak isSpaceChar cs

/-- The ways to write a scalar. -/
inductive Style where
  | plain | single | double
  deriving Repr, DecidableEq

/-- The way to write a text; a key on one line with its value must be on one line itself. -/
def Style.ofText (inKey : Bool) (s : String) : Style :=
  let cs := s.toList
  let broken := inKey && isMultiline cs
  if Kind.ofText s = .text ∧ allowsPlain cs ∧ ¬ broken then .plain
  else if allowsSingle cs ∧ ¬ broken then .single
  else .double

/-! ### Writing on lines -/

/-- What is written so far, the last character first, and the column. `apart` says that a blank or
the start of a line is last, and `fresh` that only indicators are on the line. -/
structure Pen where
  written : List Char
  column : Nat
  apart : Bool
  fresh : Bool

namespace Pen

/-- Nothing is written. -/
def start : Pen := ⟨[], 0, true, true⟩

/-- More characters on the line. -/
def put (p : Pen) (cs : List Char) : Pen :=
  { p with written := cs.reverse ++ p.written, column := p.column + cs.length }

/-- A line break. -/
def breakLine (p : Pen) (c : Char) : Pen := ⟨c :: p.written, 0, true, true⟩

/-- The column of an indent; a new line is begun if it is passed or if the line is not fresh. -/
def indent (p : Pen) (n : Nat) : Pen :=
  let p := if ¬ p.fresh ∨ n < p.column ∨ (p.column = n ∧ ¬ p.apart) then p.breakLine '\n' else p
  if p.column < n then { p.put (List.replicate (n - p.column) ' ') with apart := true } else p

/-- An indicator, set apart if that is needed. -/
def mark (p : Pen) (cs : List Char) (needsGap : Bool) (apart fresh : Bool) : Pen :=
  let q := p.put (if p.apart || !needsGap then cs else ' ' :: cs)
  { q with apart, fresh := p.fresh && fresh }

/-- The pen in the middle of a line. -/
def settle (p : Pen) : Pen := { p with apart := false, fresh := false }

end Pen

/-- The width from which on lines are folded. -/
def lineWidth : Nat := 80

/-- The parts of a text: runs of spaces, runs of line breaks, and what is between them. -/
inductive Run where
  | spaces (n : Nat)
  | breaks (cs : List Char)
  | word (cs : List Char)
  deriving Repr, DecidableEq

/-- The runs of a text. -/
def runs : List Char → List Run
  | [] => []
  | c :: cs =>
    if c = ' ' then match runs cs with
      | .spaces n :: rs => .spaces (n + 1) :: rs
      | rs => .spaces 1 :: rs
    else if isBreak c then match runs cs with
      | .breaks bs :: rs => .breaks (c :: bs) :: rs
      | rs => .breaks [c] :: rs
    else match runs cs with
      | .word ds :: rs => .word (c :: ds) :: rs
      | rs => .word [c] :: rs

/-- A run of spaces, or a fold in the place of a single one. -/
def writeSpaces (indent n : Nat) (mayFold : Bool) (p : Pen) : Pen × Bool :=
  if n = 1 ∧ mayFold ∧ lineWidth < p.column then (p.indent indent, true)
  else (p.put (List.replicate n ' '), false)

/-- A run of line breaks. The first line feed is written twice, since a single one would be a
space. -/
def writeBreaks (indent : Nat) (cs : List Char) (p : Pen) : Pen :=
  let p := if cs.head? = some '\n' then p.breakLine '\n' else p
  (cs.foldl Pen.breakLine p).indent indent

/-- The runs of a text in single quotes. -/
def writeSingleRuns (indent : Nat) (fold first : Bool) : List Run → Pen → Pen
  | [], p => p
  | r :: rs, p =>
    let p := match r with
      | .spaces n => (writeSpaces indent n (fold && !first && !rs.isEmpty) p).1
      | .breaks cs => writeBreaks indent cs p
      | .word cs => p.put (cs.flatMap fun c => if c = '\'' then ['\'', '\''] else [c])
    writeSingleRuns indent fold false rs p

/-- A text in single quotes. -/
def writeSingle (indent : Nat) (fold : Bool) (cs : List Char) (p : Pen) : Pen :=
  (writeSingleRuns indent fold true (runs cs) (p.mark ['\''] true false false)).mark ['\'']
    false false false

/-- The runs of a text without quotes. -/
def writePlainRuns (indent : Nat) (fold : Bool) : List Run → Pen → Pen
  | [], p => p
  | r :: rs, p =>
    let p := match r with
      | .spaces n =>
        let q := writeSpaces indent n fold p
        if q.2 then q.1.settle else q.1
      | .breaks cs => writeBreaks indent cs p
      | .word cs => p.put cs
    writePlainRuns indent fold rs p

/-- A text without quotes. -/
def writePlain (indent : Nat) (fold : Bool) (cs : List Char) (p : Pen) : Pen :=
  if cs.isEmpty then p
  else
    let p := if p.apart then p else p.put [' ']
    writePlainRuns indent fold (runs cs) p.settle

/-- The letter of a short escape. -/
def shortEscape? (c : Char) : Option Char :=
  match c with
  | '\x00' => some '0' | '\x07' => some 'a' | '\x08' => some 'b' | '\t' => some 't'
  | '\n' => some 'n' | '\x0b' => some 'v' | '\x0c' => some 'f' | '\r' => some 'r'
  | '\x1b' => some 'e' | '"' => some '"' | '\\' => some '\\' | '\x85' => some 'N'
  | '\xa0' => some '_' | '\u2028' => some 'L' | '\u2029' => some 'P'
  | _ => none

/-- Hexadecimal digits in capitals. -/
def capitalHex (width n : Nat) : List Char := (hex width n).map Char.toUpper

/-- The escape of a character. -/
def escape (c : Char) : List Char :=
  match shortEscape? c with
  | some l => ['\\', l]
  | none =>
    let n := c.toNat
    if n < 0x100 then '\\' :: 'x' :: capitalHex 2 n
    else if n < 0x10000 then '\\' :: 'u' :: capitalHex 4 n
    else '\\' :: 'U' :: capitalHex 8 n

/-- Whether a character is written as it is between double quotes. -/
def isDirect (c : Char) : Bool :=
  let n := c.toNat
  c != '"' && c != '\\' && c != '\x85' && c != '\u2028' && c != '\u2029' && c != '\ufeff' &&
    ((0x20 ≤ n && n ≤ 0x7e) || (0xa0 ≤ n && n ≤ 0xd7ff) || (0xe000 ≤ n && n ≤ 0xfffd))

/-- A fold between double quotes: a backslash ends the line, and another one comes before a space
that would be dropped. -/
def foldDouble (indent : Nat) (next : Option Char) (p : Pen) : Pen :=
  let p := ((p.put ['\\']).indent indent).settle
  if next = some ' ' then p.put ['\\'] else p

/-- The character that a letter is, if that is written as it is between double quotes. -/
def directChar? : Letter → Option Char
  | .char c => if isDirect c then some c else none
  | .half _ => none

/-- The escape of a letter. -/
def escapeLetter : Letter → List Char
  | .char c => escape c
  | .half s => '\\' :: 'u' :: capitalHex 4 s.code

/-- The letters of a text between double quotes. `pending` holds the characters that are not written
yet, the last one first. -/
def writeDoubleLetters (indent : Nat) (fold first : Bool) (pending : List Char) :
    List Letter → Pen → Pen
  | [], p => p.put pending.reverse
  | l :: rest, p =>
    let mayFold := fold && !first && !rest.isEmpty
    match directChar? l with
    | some c =>
      if mayFold ∧ (c = ' ' ∨ pending.isEmpty) ∧ lineWidth < p.column + pending.length then
        let p := foldDouble indent (some c) (p.put pending.reverse)
        writeDoubleLetters indent fold false [c] rest p
      else writeDoubleLetters indent fold false (c :: pending) rest p
    | none =>
      let p := (p.put pending.reverse).put (escapeLetter l)
      let p := if mayFold ∧ lineWidth + 1 < p.column then
          foldDouble indent (rest.head?.bind Letter.char?) p
        else p
      writeDoubleLetters indent fold false [] rest p

/-- The characters of a text between double quotes. -/
def writeDoubleChars (indent : Nat) (fold first : Bool) (pending cs : List Char) (p : Pen) : Pen :=
  writeDoubleLetters indent fold first pending (cs.map .char) p

theorem writeDoubleChars_nil (indent : Nat) (fold first : Bool) (pending : List Char) (p : Pen) :
    writeDoubleChars indent fold first pending [] p = p.put pending.reverse := rfl

theorem writeDoubleChars_cons (indent : Nat) (fold first : Bool) (pending : List Char) (c : Char)
    (rest : List Char) (p : Pen) :
    writeDoubleChars indent fold first pending (c :: rest) p =
      let mayFold := fold && !first && !rest.isEmpty
      if isDirect c then
        if mayFold ∧ (c = ' ' ∨ pending.isEmpty) ∧ lineWidth < p.column + pending.length then
          let p := foldDouble indent (some c) (p.put pending.reverse)
          writeDoubleChars indent fold false [c] rest p
        else writeDoubleChars indent fold false (c :: pending) rest p
      else
        let p := (p.put pending.reverse).put (escape c)
        let p := if mayFold ∧ lineWidth + 1 < p.column then foldDouble indent rest.head? p else p
        writeDoubleChars indent fold false [] rest p := by
  have hhead : ((rest.map Letter.char).head?.bind Letter.char?) = rest.head? := by
    cases rest <;> rfl
  unfold writeDoubleChars
  rw [List.map_cons, writeDoubleLetters, directChar?, List.isEmpty_map, hhead]
  cases isDirect c <;> rfl

/-- A text in double quotes. -/
def writeDouble (indent : Nat) (fold : Bool) (cs : List Char) (p : Pen) : Pen :=
  (writeDoubleChars indent fold true [] cs (p.mark ['"'] true false false)).mark ['"']
    false false false

/-- A torn text, which is always in double quotes. -/
def writeTorn (indent : Nat) (fold : Bool) (t : TornText) (p : Pen) : Pen :=
  (writeDoubleLetters indent fold true [] t.letters (p.mark ['"'] true false false)).mark ['"']
    false false false

/-- A text in a given way. -/
def writeStyled (style : Style) (indent : Nat) (fold : Bool) (cs : List Char) (p : Pen) : Pen :=
  match style with
  | .plain => writePlain indent fold cs p
  | .single => writeSingle indent fold cs p
  | .double => writeDouble indent fold cs p

end ApiContract.Yaml
