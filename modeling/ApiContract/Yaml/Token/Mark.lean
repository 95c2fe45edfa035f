import ApiContract.Text.Utf8
import ApiContract.Yaml.Token
import ApiContract.Yaml.Token.Block

/-!
Tokens that begin with a mark: anchors and aliases, tags, and directives.
-/

namespace ApiContract.Yaml

open ApiContract.Json ApiContract.Number ApiContract.Text

/-- A token that is cut off, and what follows. -/
abbrev Cut := Except Fault (Token × List Char)

/-- A character of a name. -/
def isNameChar (c : Char) : Bool := c.isAlphanum || c == '-' || c == '_'

/-- Whether what follows the name of an anchor may follow it. -/
def anchorEnds (cs : List Char) : Bool :=
  gapFollows cs || (cs.head?.map fun c => "?:,]\x7d%@`".toList.contains c).getD true

/-- An anchor or an alias, from after its mark. -/
def cutAnchor (make : String → Token) (cs : List Char) : Cut :=
  let name := cs.takeWhile isNameChar
  let rest := cs.dropWhile isNameChar
  if !name.isEmpty && anchorEnds rest then .ok (make (String.ofList name), rest) else .error .token

/-! ### Tags -/

/-- A character of a tag. -/
def isTagChar (c : Char) : Bool := c.isAlphanum || "-;/?:@&=+$,_.!~*'()[]%".toList.contains c

/-- The bytes of escapes in front, and what follows. -/
def cutByteEscapes : List Char → Except Fault (List UInt8 × List Char)
  | '%' :: a :: b :: cs => match hexValue? a, hexValue? b with
    | some m, some n => match cutByteEscapes cs with
      | .ok (bs, rest) => .ok (UInt8.ofNat (m * 16 + n) :: bs, rest)
      | .error e => .error e
    | _, _ => .error .token
  | '%' :: _ => .error .token
  | cs => .ok ([], cs)

/-- The characters of a tag, with escapes decoded, and what follows. There are at most `n` pieces. -/
def cutTagText : (n : Nat) → List Char → Except Fault (List Char × List Char)
  | 0, cs => .ok ([], cs)
  | _ + 1, [] => .ok ([], [])
  | n + 1, c :: cs =>
    if c == '%' then do
      let (bs, rest) ← cutByteEscapes (c :: cs)
      let piece ← (decodeStrict bs).mapError fun _ => Fault.token
      let (more, rest) ← cutTagText n rest
      pure (piece ++ more, rest)
    else if isTagChar c then do
      let (more, rest) ← cutTagText n cs
      pure (c :: more, rest)
    else .ok ([], c :: cs)

/-- The text of a tag, which must not be empty. -/
def cutSuffix (cs : List Char) : Except Fault (String × List Char) := do
  if (cs.head?.map isTagChar).getD false then
    let (text, rest) ← cutTagText cs.length cs
    pure (String.ofList text, rest)
  else throw .token

/-- A handle from its first exclamation mark on: a name between two of them, or one before a
space. -/
def cutHandle (cs : List Char) : Except Fault (String × List Char) :=
  match cs with
  | '!' :: ' ' :: rest => .ok ("!", ' ' :: rest)
  | '!' :: rest =>
    let name := rest.takeWhile isNameChar
    match rest.dropWhile isNameChar with
    | '!' :: rest => .ok (String.ofList ('!' :: name ++ ['!']), rest)
    | _ => .error .token
  | _ => .error .token

/-- The tag after its first exclamation mark. -/
def cutTagBody (cs : List Char) : Cut := do
  match cs with
  | '<' :: rest =>
    let (suffix, rest) ← cutSuffix rest
    match rest with
    | '>' :: rest => pure (.tag none suffix, rest)
    | _ => throw .token
  | _ =>
    if gapFollows cs then pure (.tag none "!", cs)
    else if (cs.takeWhile fun c => c != ' ' && !isLineEnd c).contains '!' then
      let (handle, rest) ← cutHandle ('!' :: cs)
      let (suffix, rest) ← cutSuffix rest
      pure (.tag (some handle) suffix, rest)
    else
      let (suffix, rest) ← cutSuffix cs
      pure (.tag (some "!") suffix, rest)

/-- A tag, from after its first exclamation mark. -/
def cutTag (cs : List Char) : Cut := do
  let (t, rest) ← cutTagBody cs
  if wordEnds rest then pure (t, rest) else throw .token

/-! ### Directives -/

/-- Digits in front and what follows. -/
def cutNumber (cs : List Char) : Except Fault (Nat × List Char) :=
  let ds := cs.takeWhile Char.isDigit
  if ds.isEmpty then .error .token
  else .ok (ofDigits 10 (ds.filterMap hexValue?), cs.dropWhile Char.isDigit)

/-- What follows, if it is a gap. -/
def atWordEnd (cs : List Char) : Except Fault (List Char) :=
  if wordEnds cs then .ok cs else .error .token

/-- The version in a directive. -/
def cutVersion (cs : List Char) : Except Fault (Directive × List Char) := do
  let (major, rest) ← cutNumber (cs.dropWhile (· == ' '))
  match rest with
  | '.' :: rest =>
    let (_, rest) ← cutNumber rest
    pure (.version major, ← atWordEnd rest)
  | _ => throw .token

/-- The handle in a directive, and what it stands for. -/
def cutHandleLine (cs : List Char) : Except Fault (Directive × List Char) := do
  let (handle, rest) ← cutHandle (cs.dropWhile (· == ' '))
  match rest with
  | ' ' :: rest =>
    let (beginning, rest) ← cutSuffix (rest.dropWhile (· == ' '))
    pure (.handle handle beginning, ← atWordEnd rest)
  | _ => throw .token

/-- A directive with its line, from after the percent sign. -/
def cutDirective (cs : List Char) : Cut := do
  let name := cs.takeWhile isNameChar
  if name.isEmpty then throw .token
  let rest ← atWordEnd (cs.dropWhile isNameChar)
  let (d, rest) ← match String.ofList name with
    | "YAML" => cutVersion rest
    | "TAG" => cutHandleLine rest
    | _ => pure (.other, rest.dropWhile (!isLineEnd ·))
  pure (.directive d, ← cutLineEnd rest)

end ApiContract.Yaml
