import ApiContract.Yaml.Token.Quoted

/-!
Block scalars: texts on lines of their own below a bar or an angle. A bar keeps the line breaks; an
angle folds them into spaces. The breaks at the end are kept, dropped or cut down to one.
-/

namespace ApiContract.Yaml

open ApiContract.Json

/-- What becomes of the line breaks at the end. -/
inductive Chomping where
  | clip | strip | keep
  deriving Repr, DecidableEq

/-- What stands behind the bar or the angle. -/
structure BlockHeader where
  chomping : Chomping
  indent : Option Nat
  deriving Repr

/-- How to treat the line breaks at the end, and what follows. -/
def cutChomping : List Char → Option Chomping × List Char
  | '+' :: cs => (some .keep, cs)
  | '-' :: cs => (some .strip, cs)
  | cs => (none, cs)

/-- An indentation from one to nine, and what follows. -/
def cutIndent : List Char → Except Fault (Option Nat × List Char)
  | [] => .ok (none, [])
  | c :: cs =>
    if c == '0' then .error .token
    else if c.isDigit then .ok (hexValue? c, cs)
    else .ok (none, c :: cs)

/-- The header of a block scalar, in either order, and what follows. -/
def cutHeader (cs : List Char) : Except Fault (BlockHeader × List Char) := do
  let (first, cs) := cutChomping cs
  let (indent, cs) ← cutIndent cs
  let (second, cs) := match first with
    | none => if indent.isSome then cutChomping cs else (none, cs)
    | some _ => (none, cs)
  if wordEnds cs then pure (⟨(first.or second).getD .clip, indent⟩, cs) else throw .token

/-- What follows a line on which there is nothing more but a comment. -/
def cutLineEnd (cs : List Char) : Except Fault (List Char) :=
  let rest := Cursor.dropComment (cs.dropWhile (· == ' '))
  if lineEnds rest then .ok ((cutBreak rest).elim rest (·.2)) else .error .token

/-- The empty lines at the beginning: their breaks, the widest column that spaces reach, the column
of what follows, and that. -/
structure Lead where
  breaks : List Char
  width : Nat
  column : Nat
  rest : List Char
  deriving Repr

/-- The empty lines at the beginning of a block scalar. -/
def cutLead (cs : List Char) : Lead :=
  let n := (cs.takeWhile (· == ' ')).length
  match _h : cutBreak (cs.dropWhile (· == ' ')) with
  | none => ⟨[], n, n, cs.dropWhile (· == ' ')⟩
  | some (c, rest) =>
    let l := cutLead rest
    { l with breaks := c :: l.breaks, width := max n l.width }
  termination_by cs.length
  decreasing_by
    have := cutBreak_length _h
    have := (List.dropWhile_suffix (· == ' ') (l := cs)).length_le
    omega

/-- The empty lines in front, where up to `indent` spaces are passed over on each line. -/
def cutBlankLines (indent : Nat) (cs : List Char) : Lead :=
  let n := ((cs.take indent).takeWhile (· == ' ')).length
  match _h : cutBreak (cs.drop n) with
  | none => ⟨[], n, n, cs.drop n⟩
  | some (c, rest) =>
    let l := cutBlankLines indent rest
    { l with breaks := c :: l.breaks }
  termination_by cs.length
  decreasing_by
    have := cutBreak_length _h
    simp only [List.length_drop] at this
    omega

/-- The text of a block scalar, its last line break, the breaks of the empty lines after it, and
what follows those. -/
structure BlockText where
  text : List Char
  lastBreak : List Char
  breaks : List Char
  rest : List Char
  deriving Repr

/-- Whether the first character is no blank. -/
def startsDark (cs : List Char) : Bool := (cs.head?.map (!isSpacing ·)).getD true

/-- What stands between two lines of a block scalar besides the breaks of empty lines. -/
def betweenLines (folded : Bool) (first next : List Char) (lineBreak breaks : List Char) :
    List Char :=
  if folded && lineBreak == ['\n'] && startsDark first && startsDark next then
    if breaks.isEmpty then [' '] else []
  else lineBreak

/-- The lines of a block scalar from the column `l.column` on; there are at most `n` of them. -/
def cutLines (folded : Bool) (indent : Nat) : (n : Nat) → Lead → BlockText
  | 0, l => ⟨[], [], l.breaks, l.rest⟩
  | n + 1, l =>
    if l.column != indent || l.rest.isEmpty then ⟨[], [], l.breaks, l.rest⟩
    else
      let line := l.rest.takeWhile (!isLineEnd ·)
      let rest := l.rest.dropWhile (!isLineEnd ·)
      let (lineBreak, rest) := match cutBreak rest with
        | some (c, rest) => ([c], rest)
        | none => ([], rest)
      let next := cutBlankLines indent rest
      if next.column == indent && !next.rest.isEmpty then
        let t := cutLines folded indent n next
        { t with
          text := l.breaks ++ line ++ betweenLines folded l.rest next.rest lineBreak next.breaks ++
            t.text }
      else ⟨l.breaks ++ line, lineBreak, next.breaks, next.rest⟩

/-- The text with what is left of the line breaks at its end. -/
def BlockText.chomped (t : BlockText) : Chomping → List Char
  | .strip => t.text
  | .clip => t.text ++ t.lastBreak
  | .keep => t.text ++ t.lastBreak ++ t.breaks

/-- The block scalar after its bar or angle, and what follows. The lines are indented further than
`indent`, and by one space at least. -/
def cutBlock (folded : Bool) (indent : Int) (cs : List Char) :
    Except Fault (List Char × List Char) := do
  let (header, cs) ← cutHeader cs
  let cs ← cutLineEnd cs
  let least := max 1 (indent + 1).toNat
  let (width, lead) := match header.indent with
    | none =>
      let l := cutLead cs
      (max least l.width, l)
    | some n =>
      let w := least + n - 1
      (w, cutBlankLines w cs)
  let t := cutLines folded width cs.length lead
  pure (t.chomped header.chomping, t.rest)

end ApiContract.Yaml
