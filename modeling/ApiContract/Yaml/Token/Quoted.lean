import ApiContract.Text.Letter
import ApiContract.Value.JsonReader
import ApiContract.Yaml.Cursor
import ApiContract.Yaml.Fault

/-!
Scalars between quotes. A single line break within them counts as a space, and of several ones the
first does not count. Blanks around line breaks are dropped. In single quotes a quote is written
twice; in double quotes a backslash begins an escape, which may stand for a surrogate.
-/

namespace ApiContract.Yaml

open ApiContract.Number ApiContract.Json ApiContract.Text

/-- The line breaks in front, with blanks before and after them, and what follows. A mark between
documents must not be there. -/
def cutBreaks (cs : List Char) : Except Fault (List Char × List Char) :=
  if atDocumentMark cs then .error .token
  else
    match _h : cutBreak (cs.dropWhile isSpacing) with
    | none => .ok ([], cs.dropWhile isSpacing)
    | some (c, rest) => match cutBreaks rest with
      | .ok (more, rest) => .ok (c :: more, rest)
      | .error e => .error e
  termination_by cs.length
  decreasing_by
    have := cutBreak_length _h
    have := (List.dropWhile_suffix isSpacing (l := cs)).length_le
    omega

/-- What line breaks stand for: the first of them, and the other ones. -/
def joinLines (first : Char) (more : List Char) : List Char :=
  (if first != '\n' then [first] else if more.isEmpty then [' '] else []) ++ more

/-- The blanks and line breaks in front, as they count, and what follows, which is not the end. -/
def cutGap (cs : List Char) : Except Fault (List Char × List Char) :=
  let rest := cs.dropWhile isSpacing
  match rest with
  | [] => .error .ended
  | _ => match cutBreak rest with
    | none => .ok (cs.takeWhile isSpacing, rest)
    | some (c, rest) => (cutBreaks rest).map fun (more, rest) => (joinLines c more, rest)

/-- The character that a letter after a backslash stands for. -/
def escapes : List (Char × Char) :=
  [('0', '\x00'), ('a', '\x07'), ('b', '\x08'), ('t', '\t'), ('\t', '\t'), ('n', '\n'),
   ('v', '\x0b'), ('f', '\x0c'), ('r', '\r'), ('e', '\x1b'), (' ', ' '), ('"', '"'),
   ('\\', '\\'), ('/', '/'), ('N', '\x85'), ('_', '\xa0'), ('L', '\u2028'), ('P', '\u2029')]

/-- How many hexadecimal digits follow a letter after a backslash. -/
def escapeWidths : List (Char × Nat) := [('x', 2), ('u', 4), ('U', 8)]

/-- The largest number that a machine word with a sign can hold. -/
def wordLimit : Nat := 0x7fffffff

/-- The letter of a code, which may be a surrogate. -/
def letterOfCode (n : Nat) : Except Fault Letter :=
  if wordLimit < n then .error .largeCode
  else match Letter.ofCode? n with
    | some l => .ok l
    | none => .error (.badValue "chr() arg not in range(0x110000)")

/-- What an escape stands for, after its backslash, and what follows. -/
def cutEscape : List Char → Except Fault (List Letter × List Char)
  | [] => .error .ended
  | c :: cs =>
    match escapes.lookup c, escapeWidths.lookup c with
    | some d, _ => .ok ([.char d], cs)
    | none, some n =>
      match (cs.take n).mapM hexValue? with
      | some ds =>
        if ds.length = n then (letterOfCode (ofDigits 16 ds)).map fun l => ([l], cs.drop n)
        else .error .token
      | none => .error .token
    | none, none => match cutBreak (c :: cs) with
      | some (_, rest) => (cutBreaks rest).map fun (cs, rest) => (cs.map .char, rest)
      | none => .error .token

/-- The text between quotes, from after the first quote, and what follows the last one. Every piece
is shorter than what is before it. -/
def cutQuoted (double : Bool) (cs : List Char) : Except Fault (List Letter × List Char) :=
  match cs with
  | [] => .error .ended
  | c :: rest =>
    let piece : Except Fault (Option (List Letter × List Char)) :=
      if c == (if double then '"' else '\'') then
        match double, rest with
        | false, '\'' :: rest => .ok (some ([.char '\''], rest))
        | _, _ => .ok none
      else if double && c == '\\' then (cutEscape rest).map some
      else if isSpacing c || isLineEnd c then
        (cutGap (c :: rest)).map fun (cs, rest) => some (cs.map .char, rest)
      else .ok (some ([.char c], rest))
    match piece with
    | .error e => .error e
    | .ok none => .ok ([], rest)
    | .ok (some (ls, rest')) =>
      if _h : rest'.length < (c :: rest).length then
        match cutQuoted double rest' with
        | .ok (more, rest) => .ok (ls ++ more, rest)
        | .error e => .error e
      else .error .token
  termination_by cs.length
  decreasing_by exact _h

end ApiContract.Yaml
