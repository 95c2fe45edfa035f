import ApiContract.Yaml.Layout

/-!
Positions in a YAML text, and what is cut off in front of them: line breaks, blanks and comments.
-/

namespace ApiContract.Yaml

/-- The mark that may stand at the very beginning of a text; it takes up no column. -/
def byteOrderMark : Char := '\ufeff'

/-- A position: what is left of the text, how many characters, lines and columns come before. -/
structure Cursor where
  rest : List Char
  index : Nat
  line : Nat
  column : Nat
  deriving Repr

/-- A line break as a text may have it. -/
def isLineEnd (c : Char) : Bool := c == '\r' || isBreak c

/-- A space or a tab. -/
def isSpacing (c : Char) : Bool := c == ' ' || c == '\t'

/-- Whether the end or a line break comes next. -/
def lineEnds : List Char → Bool
  | [] => true
  | c :: _ => isLineEnd c

/-- Whether the end, a line break or a space comes next. -/
def wordEnds : List Char → Bool
  | [] => true
  | c :: _ => c == ' ' || isLineEnd c

/-- Whether the end, a line break, a space or a tab comes next. -/
def gapFollows : List Char → Bool
  | [] => true
  | c :: _ => isSpacing c || isLineEnd c

/-- A line break in front, as it counts, and what follows it. -/
def cutBreak : List Char → Option (Char × List Char)
  | '\r' :: '\n' :: rest => some ('\n', rest)
  | c :: rest =>
    if c == '\n' || c == '\r' || c == '\x85' then some ('\n', rest)
    else if isBreak c then some (c, rest)
    else none
  | [] => none

theorem cutBreak_length {cs rest : List Char} {c : Char} (h : cutBreak cs = some (c, rest)) :
    rest.length < cs.length := by
  unfold cutBreak at h
  split at h
  · simp only [Option.some.injEq, Prod.mk.injEq] at h
    obtain ⟨-, rfl⟩ := h
    simp only [List.length_cons]; omega
  · split at h
    · simp only [Option.some.injEq, Prod.mk.injEq] at h
      obtain ⟨-, rfl⟩ := h
      simp
    · split at h
      · simp only [Option.some.injEq, Prod.mk.injEq] at h
        obtain ⟨-, rfl⟩ := h
        simp
      · simp at h
  · simp at h

/-- Whether three marks stand alone in front, as between documents. -/
def isDocumentMark (mark : Char) (cs : List Char) : Bool :=
  [mark, mark, mark].isPrefixOf cs && gapFollows (cs.drop 3)

/-- Whether one of the two marks between documents is in front. -/
def atDocumentMark (cs : List Char) : Bool := isDocumentMark '-' cs || isDocumentMark '.' cs

namespace Cursor

/-- The beginning of a text. -/
def start (cs : List Char) : Cursor := ⟨cs, 0, 0, 0⟩

/-- The position after a character that is followed by `rest`. -/
def after (c : Cursor) (ch : Char) (rest : List Char) : Cursor :=
  if isBreak ch || (ch == '\r' && rest.head? != some '\n') then ⟨rest, c.index + 1, c.line + 1, 0⟩
  else ⟨rest, c.index + 1, c.line, if ch == byteOrderMark then c.column else c.column + 1⟩

/-- The position some characters further on. -/
def advance : Nat → Cursor → Cursor
  | 0, c => c
  | n + 1, c => match c.rest with
    | [] => c
    | ch :: rest => advance n (c.after ch rest)

/-- The position where only `rest` is left, which is an end of what is left here. -/
def moveTo (c : Cursor) (rest : List Char) : Cursor :=
  c.advance (c.rest.length - rest.length)

/-- The position after spaces. -/
def skipSpaces (c : Cursor) : Cursor := c.moveTo (c.rest.dropWhile (· == ' '))

/-- The rest after a comment, if there is one. -/
def dropComment (cs : List Char) : List Char :=
  if cs.head? == some '#' then cs.dropWhile (!isLineEnd ·) else cs

end Cursor

end ApiContract.Yaml
