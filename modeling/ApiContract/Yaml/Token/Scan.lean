import ApiContract.Yaml.Token.Mark
import ApiContract.Yaml.Token.Plain

/-!
Cutting a YAML text into tokens. Blocks begin and end where the indentation changes. A key in front
of a colon is only known for a key at the colon, so each token that may begin a key is remembered:
within one line, and up to a thousand characters, a colon turns it into one. A token counts as read
once it is known whether a key begins there; if the text goes wrong somewhere, the tokens that count
as read before are still there. A text of which only a beginning is known goes wrong where that ends.
-/

namespace ApiContract.Yaml

open ApiContract.Text

/-- A token that may begin a key: which one it is, where it is, and whether it must begin one. -/
structure Candidate where
  token : Nat
  index : Nat
  line : Nat
  column : Nat
  isRequired : Bool
  deriving Repr

/-- A token with those that are put before it when it turns out to begin a key. -/
structure Slot where
  opening : List Token
  token : Token
  deriving Repr

/-- The tokens of a slot. -/
def Slot.tokens (s : Slot) : List Token := s.opening ++ [s.token]

/-- A text that is cut into tokens up to some position: how deep in flow collections that is, the
columns of the blocks around it, innermost first, whether a key may begin there, and the tokens that
may have begun one, by the depths at which they are. -/
structure Scanner where
  cursor : Cursor
  slots : Array Slot
  depth : Int
  columns : List Nat
  keyAllowed : Bool
  candidates : List (Int × Candidate)
  deriving Repr

namespace Scanner

/-- The beginning of a text. -/
def start (cs : List Char) : Scanner := ⟨.start cs, #[], 0, [], true, []⟩

/-- Whether the position is in a flow collection. -/
def inFlow (s : Scanner) : Bool := s.depth != 0

/-- The column of the innermost block, which is left of the first one if there is none. -/
def indent (s : Scanner) : Int := match s.columns with
  | c :: _ => c
  | [] => -1

/-- One more token. -/
def push (s : Scanner) (t : Token) : Scanner := { s with slots := s.slots.push ⟨[], t⟩ }

/-- A position further on. -/
def moveTo (s : Scanner) (rest : List Char) : Scanner := { s with cursor := s.cursor.moveTo rest }

/-! ### Keys to be -/

/-- How far a key may reach. -/
def keyReach : Nat := 1024

/-- Whether a token can begin a key no more. -/
def isStale (s : Scanner) (c : Candidate) : Bool :=
  c.line != s.cursor.line || keyReach < s.cursor.index - c.index

/-- The scanner without the tokens that can begin a key no more; none of them must have to. -/
def dropStale (s : Scanner) : Except Fault Scanner :=
  if s.candidates.any fun p => s.isStale p.2 && p.2.isRequired then .error .token
  else .ok { s with candidates := s.candidates.filter fun p => !s.isStale p.2 }

/-- The scanner without the candidate at its depth, which must not have to begin a key. -/
def dropCandidate (s : Scanner) : Except Fault Scanner :=
  if s.candidates.any fun p => p.1 == s.depth && p.2.isRequired then .error .token
  else .ok { s with candidates := s.candidates.filter (·.1 != s.depth) }

/-- The scanner with the next token as a candidate, if a key is allowed. -/
def addCandidate (s : Scanner) : Except Fault Scanner :=
  if s.keyAllowed then do
    let required := !s.inFlow && s.indent == s.cursor.column
    let c : Candidate := ⟨s.slots.size, s.cursor.index, s.cursor.line, s.cursor.column, required⟩
    let s ← s.dropCandidate
    pure { s with candidates := (s.depth, c) :: s.candidates }
  else .ok s

/-- How many tokens count as read: those before the first candidate. -/
def settled (s : Scanner) : Nat :=
  s.candidates.foldl (fun n p => min n p.2.token) s.slots.size

/-! ### Blocks -/

/-- The scanner after the blocks end that are indented further than a column. -/
def closeBlocks (s : Scanner) (column : Int) : Scanner :=
  if s.inFlow then s
  else
    let inner := s.columns.takeWhile fun c : Nat => column < (c : Int)
    { s with
      slots := s.slots ++ Array.replicate inner.length ⟨[], .blockEnd⟩
      columns := s.columns.dropWhile fun c : Nat => column < (c : Int) }

/-- The columns with a new block, if it is indented further than the innermost one. -/
def openColumn (s : Scanner) (column : Nat) : Option (List Nat) :=
  if s.indent < column then some (column :: s.columns) else none

/-- The scanner after a block begins, if it is indented further than the innermost one. -/
def openBlock (s : Scanner) (t : Token) : Scanner :=
  match s.openColumn s.cursor.column with
  | some cs => { s.push t with columns := cs }
  | none => s

/-! ### Tokens -/

/-- The scanner after a mark of some characters, which is a token. -/
def mark (s : Scanner) (n : Nat) (t : Token) : Scanner :=
  { s.push t with cursor := s.cursor.advance n }

/-- The scanner before a token that ends all blocks and allows no key. -/
def atMargin (s : Scanner) : Except Fault Scanner := do
  let s ← (s.closeBlocks (-1)).dropCandidate
  pure { s with keyAllowed := false }

/-- The end of the text. -/
def fetchEnd (s : Scanner) : Except Fault Scanner := do
  let s ← s.atMargin
  pure { s.push .streamEnd with candidates := [] }

/-- A mark between documents. -/
def fetchDocumentMark (s : Scanner) (t : Token) : Except Fault Scanner := do
  pure ((← s.atMargin).mark 3 t)

/-- A token that is cut off one character after the position. -/
def fetchCut (s : Scanner) (cut : List Char → Cut) : Except Fault Scanner := do
  let (t, rest) ← cut (s.cursor.rest.drop 1)
  pure ((s.push t).moveTo rest)

/-- A directive. -/
def fetchDirective (s : Scanner) : Except Fault Scanner := do
  (← s.atMargin).fetchCut cutDirective

/-- The beginning of a flow collection. -/
def fetchOpen (s : Scanner) (t : Token) : Except Fault Scanner := do
  let s ← s.addCandidate
  pure { s.mark 1 t with depth := s.depth + 1, keyAllowed := true }

/-- The end of a flow collection. -/
def fetchClose (s : Scanner) (t : Token) : Except Fault Scanner := do
  let s ← s.dropCandidate
  pure { s.mark 1 t with depth := s.depth - 1, keyAllowed := false }

/-- A comma. -/
def fetchComma (s : Scanner) : Except Fault Scanner := do
  pure ((← { s with keyAllowed := true }.dropCandidate).mark 1 .comma)

/-- A token that begins a block unless the position is in a flow collection. It must stand where a
key may stand. -/
def fetchBlockMark (s : Scanner) (block t : Token) (keyAllowed : Bool) : Except Fault Scanner := do
  if !s.inFlow && !s.keyAllowed then throw .token
  let s := if s.inFlow then s else s.openBlock block
  pure ((← { s with keyAllowed := keyAllowed }.dropCandidate).mark 1 t)

/-- The tokens before the one that begins a key, and the columns of the blocks. -/
def keyOpening (s : Scanner) (c : Candidate) : List Token × List Nat :=
  match if s.inFlow then none else s.openColumn c.column with
  | some cs => ([.blockMapping, .key], cs)
  | none => ([.key], s.columns)

/-- A colon: the candidate at its depth begins a key. -/
def fetchValue (s : Scanner) : Except Fault Scanner :=
  match s.candidates.lookup s.depth with
  | some c =>
    let (opening, columns) := s.keyOpening c
    let s := { s with
      slots := s.slots.modify c.token fun t => { t with opening := opening }
      columns := columns
      candidates := s.candidates.filter (·.1 != s.depth)
      keyAllowed := false }
    .ok (s.mark 1 .value)
  | none => s.fetchBlockMark .blockMapping .value (!s.inFlow)

/-- A token that may begin a key, and after which no key may begin. -/
def fetchName (s : Scanner) (cut : List Char → Cut) : Except Fault Scanner := do
  let s ← s.addCandidate
  { s with keyAllowed := false }.fetchCut cut

/-- The scalar of letters between quotes. -/
def quotedToken (ls : List Letter) : Token := match wholeText ls with
  | .ok cs => .scalar (String.ofList cs) false
  | .error t => .torn t

/-- A scalar from after its first quote. -/
def cutQuotedScalar (double : Bool) (cs : List Char) : Cut := do
  let (text, rest) ← cutQuoted double cs
  pure (quotedToken text, rest)

/-- A block scalar. -/
def fetchBlockScalar (s : Scanner) (folded : Bool) : Except Fault Scanner := do
  let s ← { s with keyAllowed := true }.dropCandidate
  s.fetchCut fun cs => do
    let (text, rest) ← cutBlock folded s.indent cs
    pure (.scalar (String.ofList text) false, rest)

/-- A plain scalar. -/
def fetchPlain (s : Scanner) : Except Fault Scanner := do
  let s ← s.addCandidate
  let p := cutPlain s.inFlow (s.indent + 1) s.cursor
  pure { s.push (.scalar (String.ofList p.text) true) with cursor := p.after, keyAllowed := p.broken }

/-- Whether a plain scalar can begin with a character before `rest`. -/
def beginsPlain (s : Scanner) (c : Char) (rest : List Char) : Bool :=
  !(isSpacing c || isLineEnd c || "-?:,[]\x7b\x7d#&*!|>'\"%@`".toList.contains c) ||
    (!gapFollows rest && (c == '-' || (!s.inFlow && (c == '?' || c == ':'))))

/-- The next token. -/
def fetchToken (s : Scanner) : Except Fault Scanner :=
  match s.cursor.rest with
  | [] => s.fetchEnd
  | c :: rest =>
    let atMargin := s.cursor.column == 0
    let alone := s.inFlow || gapFollows rest
    if atMargin && c == '%' then s.fetchDirective
    else if atMargin && isDocumentMark '-' s.cursor.rest then s.fetchDocumentMark .documentStart
    else if atMargin && isDocumentMark '.' s.cursor.rest then s.fetchDocumentMark .documentEnd
    else if c == '[' then s.fetchOpen .openSequence
    else if c == '\x7b' then s.fetchOpen .openMapping
    else if c == ']' then s.fetchClose .closeSequence
    else if c == '\x7d' then s.fetchClose .closeMapping
    else if c == ',' then s.fetchComma
    else if c == '-' && gapFollows rest then s.fetchBlockMark .blockSequence .entry true
    else if c == '?' && alone then s.fetchBlockMark .blockMapping .key (!s.inFlow)
    else if c == ':' && alone then s.fetchValue
    else if c == '*' then s.fetchName (cutAnchor .alias)
    else if c == '&' then s.fetchName (cutAnchor .anchor)
    else if c == '!' then s.fetchName cutTag
    else if c == '|' && !s.inFlow then s.fetchBlockScalar false
    else if c == '>' && !s.inFlow then s.fetchBlockScalar true
    else if c == '\'' then s.fetchName (cutQuotedScalar false)
    else if c == '"' then s.fetchName (cutQuotedScalar true)
    else if s.beginsPlain c rest then s.fetchPlain
    else .error .token

/-! ### Gaps between tokens -/

/-- What follows spaces, comments and line breaks, and whether there is a line break among them. -/
def cutSpace (cs : List Char) : Bool × List Char :=
  let rest := Cursor.dropComment (cs.dropWhile (· == ' '))
  match _h : cutBreak rest with
  | none => (false, rest)
  | some (_, rest') => (true, (cutSpace rest').2)
  termination_by cs.length
  decreasing_by
    have h1 := cutBreak_length _h
    have h2 : rest.length ≤ cs.length := by
      simp only [rest, Cursor.dropComment]
      split
      · exact Nat.le_trans (List.dropWhile_suffix _).length_le (List.dropWhile_suffix _).length_le
      · exact (List.dropWhile_suffix _).length_le
    omega

/-- The scanner at the next token. -/
def skipSpace (s : Scanner) : Scanner :=
  let cs := s.cursor.rest
  let cs := if s.cursor.index = 0 ∧ cs.head? = some byteOrderMark then cs.drop 1 else cs
  let (broken, rest) := cutSpace cs
  { s.moveTo rest with keyAllowed := s.keyAllowed || (broken && !s.inFlow) }

/-- The scanner after the next token and the ends of blocks before it. -/
def step (s : Scanner) : Except Fault Scanner := do
  let s ← s.skipSpace.dropStale
  (s.closeBlocks s.cursor.column).fetchToken

/-- Whether the end of the text is reached. -/
def isDone (s : Scanner) : Bool := (s.slots.back?.map (·.token)) == some .streamEnd

end Scanner

/-- The tokens of a text, up to a fault if there is one. -/
structure Tokens where
  list : List Token
  fault : Option Fault
  deriving Repr, DecidableEq

/-- The tokens in the first slots. -/
def Tokens.ofSlots (slots : Array Slot) (n : Nat) (fault : Option Fault) : Tokens :=
  ⟨(slots.toList.take n).flatMap Slot.tokens, fault⟩

/-- The scanner after the next token. If something is wrong where the text ends, there is no token that
reaches to the end. -/
def Scanner.stepBefore (end? : Option Fault) (s : Scanner) : Except Fault Scanner :=
  match end? with
  | none => s.step
  | some f =>
    if s.skipSpace.cursor.rest.isEmpty then .error f
    else match s.step with
      | .error .ended => .error f
      | .error e => .error e
      | .ok next => if next.cursor.rest.isEmpty then .error f else .ok next

/-- The tokens of a text from a position on, where so many tokens counted as read before. There are
at most `n` tokens left. -/
def Scanner.run (end? : Option Fault) (settled : Nat) : (n : Nat) → Scanner → Tokens
  | 0, s => .ofSlots s.slots settled (some .token)
  | n + 1, s => match s.dropStale with
    | .error e => .ofSlots s.slots settled (some e)
    | .ok s =>
      if s.isDone then .ofSlots s.slots s.slots.size none
      else match s.stepBefore end? with
        | .error e => .ofSlots s.slots s.settled (some e)
        | .ok next => run end? s.settled n next

/-- The tokens of a text, or of a beginning of one that goes wrong where it ends. -/
def Tokens.ofText (cs : List Char) (end? : Option Fault) : Tokens :=
  (Scanner.start cs).run end? 0 (cs.length + 2)

end ApiContract.Yaml
