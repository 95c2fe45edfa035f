import ApiContract.Yaml.Token.Quoted

/-!
Plain scalars: texts without quotes. They end where a mark or a comment begins; within a flow
collection commas and brackets end them too. They may go on over several lines that are indented
further than what they belong to.
-/

namespace ApiContract.Yaml

/-- A mark between the parts of a flow collection. -/
def isFlowMark (c : Char) : Bool := ",[]\x7b\x7d".toList.contains c

/-- Whether a plain scalar ends where `c` comes before `rest`. -/
def endsPlain (flow : Bool) (c : Char) (rest : List Char) : Bool :=
  isSpacing c || isLineEnd c ||
    (c == ':' && (gapFollows rest || (flow && (rest.head?.map isFlowMark).getD true))) ||
    (flow && (c == '?' || isFlowMark c))

/-- The characters of a plain scalar up to a gap or its end, and what follows. -/
def cutWord (flow : Bool) : List Char → List Char × List Char
  | [] => ([], [])
  | c :: rest =>
    if endsPlain flow c rest then ([], c :: rest)
    else
      let (cs, rest) := cutWord flow rest
      (c :: cs, rest)

/-- The breaks of empty lines in front, and what follows; nothing if that is a mark between
documents. -/
def cutEmptyLines (cs : List Char) : Option (List Char) × List Char :=
  if atDocumentMark cs then (none, cs)
  else
    match _h : cutBreak (cs.dropWhile (· == ' ')) with
    | none => (some [], cs.dropWhile (· == ' '))
    | some (c, rest) =>
      let (more, rest) := cutEmptyLines rest
      (more.map (c :: ·), rest)
  termination_by cs.length
  decreasing_by
    have := cutBreak_length _h
    have := (List.dropWhile_suffix (· == ' ') (l := cs)).length_le
    omega

/-- A gap within a plain scalar. -/
structure Gap where
  text : List Char
  rest : List Char
  broken : Bool
  deriving Repr

/-- The gap in front. It is empty where no other word may follow. -/
def cutPlainGap (cs : List Char) : Gap :=
  let rest := cs.dropWhile (· == ' ')
  match cutBreak rest with
  | none => ⟨cs.takeWhile (· == ' '), rest, false⟩
  | some (c, rest) => match cutEmptyLines rest with
    | (none, rest) => ⟨[], rest, true⟩
    | (some more, rest) => ⟨joinLines c more, rest, true⟩

/-- A plain scalar: its text, what comes after it and after blanks, and whether there is a line
break among those. -/
structure PlainScalar where
  text : List Char
  after : Cursor
  broken : Bool
  deriving Repr

/-- The words of a plain scalar from a position on, where a gap comes before them. There are at most
`n` of them. -/
def cutWords (flow : Bool) (indent : Int) (gap : List Char) (broken : Bool) :
    (n : Nat) → Cursor → PlainScalar
  | 0, c => ⟨[], c, broken⟩
  | n + 1, c =>
    let (word, rest) := cutWord flow c.rest
    if c.rest.head? == some '#' || word.isEmpty then ⟨[], c, broken⟩
    else
      let g := cutPlainGap rest
      let c := c.moveTo g.rest
      if g.text.isEmpty || c.rest.head? == some '#' || (!flow && c.column < indent) then
        ⟨gap ++ word, c, g.broken⟩
      else
        let s := cutWords flow indent g.text g.broken n c
        { s with text := gap ++ word ++ s.text }

/-- The plain scalar at a position; its further lines are indented by `indent` at least. -/
def cutPlain (flow : Bool) (indent : Int) (c : Cursor) : PlainScalar :=
  cutWords flow indent [] false c.rest.length c

end ApiContract.Yaml
