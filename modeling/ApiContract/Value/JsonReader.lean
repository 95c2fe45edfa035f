import ApiContract.Value
import ApiContract.Number.Numeral

/-!
Reading JSON. The text is cut into tokens, and the tokens drive a stack of open lists and maps: a
value that is complete goes into the innermost open one. A key that is bound twice keeps its first
place and its last value. A text may be torn, but not one that is a key.
-/

namespace ApiContract.Json

open ApiContract.Number ApiContract.Text

/-- A token. -/
inductive Token where
  | openMap | closeMap | openList | closeList | comma | colon
  | value (v : Value)
  | text (s : String)
  | torn (t : TornText)
  deriving Repr

/-- The value of a hexadecimal digit. -/
def hexValue? (c : Char) : Option Nat :=
  if '0' ≤ c ∧ c ≤ '9' then some (c.toNat - 48)
  else if 'a' ≤ c ∧ c ≤ 'f' then some (c.toNat - 87)
  else if 'A' ≤ c ∧ c ≤ 'F' then some (c.toNat - 55)
  else none

/-- The number of four hexadecimal digits. -/
def hexFour? (a b c d : Char) : Option Nat := do
  pure (((← hexValue? a) * 16 + (← hexValue? b)) * 256 + (← hexValue? c) * 16 + (← hexValue? d))

/-- The character that a letter after a backslash stands for. -/
def escaped? : Char → Option Char
  | '"' => some '"' | '\\' => some '\\' | '/' => some '/'
  | 'n' => some '\n' | 'r' => some '\r' | 't' => some '\t'
  | 'b' => some '\x08' | 'f' => some '\x0c'
  | _ => none

/-- The code point of a surrogate pair. -/
def joinSurrogates (high low : Nat) : Nat := 0x10000 + (high - 0xd800) * 0x400 + (low - 0xdc00)

/-- The characters up to the closing quote with their escapes, and what comes after the quote. -/
def cutText : List Char → Option (List Char × List Char)
  | [] => none
  | '"' :: rest => some ([], rest)
  | '\\' :: c :: rest => (cutText rest).map fun p => ('\\' :: c :: p.1, p.2)
  | c :: rest => (cutText rest).map fun p => (c :: p.1, p.2)

theorem cutText_length {cs : List Char} : ∀ {p : List Char × List Char},
    cutText cs = some p → p.2.length < cs.length := by
  fun_induction cutText cs with
  | case1 => simp
  | case2 rest => rintro p ⟨⟩; simp
  | case3 c rest ih =>
    intro p h
    obtain ⟨q, hq, rfl⟩ := Option.map_eq_some_iff.1 h
    have := ih hq
    simp only [List.length_cons]; omega
  | case4 c rest _ _ ih =>
    intro p h
    obtain ⟨q, hq, rfl⟩ := Option.map_eq_some_iff.1 h
    have := ih hq
    simp only [List.length_cons]; omega

/-- The code points that characters between quotes stand for, those beyond sixteen bits as two
surrogates if they are escaped. -/
def unescape? : List Char → Option (List Nat)
  | [] => some []
  | '\\' :: 'u' :: a :: b :: c :: d :: rest => do
    let n ← hexFour? a b c d
    (unescape? rest).map (n :: ·)
  | '\\' :: c :: rest => do
    let x ← escaped? c
    (unescape? rest).map (x.toNat :: ·)
  | c :: rest => if c.toNat < 0x20 ∨ c = '\\' then none else (unescape? rest).map (c.toNat :: ·)

/-- The code points where a pair of surrogates is a single one. -/
def joinUnits : List Nat → List Nat
  | n :: m :: rest =>
    if 0xd800 ≤ n ∧ n < 0xdc00 ∧ 0xdc00 ≤ m ∧ m < 0xe000 then
      joinSurrogates n m :: joinUnits rest
    else n :: joinUnits (m :: rest)
  | ns => ns
  termination_by ns => ns.length

/-- The token of letters between quotes. -/
def textToken (ls : List Letter) : Token := match wholeText ls with
  | .ok cs => .text (String.ofList cs)
  | .error t => .torn t

/-- A character that may stand in a number or a name. -/
def isWordChar (c : Char) : Bool := c.isAlphanum || c == '-' || c == '+' || c == '.'

/-- The digits of a number, as written. -/
def digitsOf? (cs : List Char) : Option (List Nat) :=
  if cs.isEmpty then none else cs.mapM fun c => if c.isDigit then hexValue? c else none

/-- A number without its sign. -/
def readMagnitude? (negative : Bool) (cs : List Char) : Option Value := do
  let whole := cs.takeWhile Char.isDigit
  let rest := cs.dropWhile Char.isDigit
  let ws ← digitsOf? whole
  guard (whole.length = 1 ∨ whole.head? ≠ some '0')
  if rest.isEmpty then
    let n : Int := ofDigits 10 ws
    pure (.int (if negative then -n else n))
  else
    let (fraction, rest) ← match rest with
      | '.' :: r => do
        let f ← digitsOf? (r.takeWhile Char.isDigit)
        pure (f, r.dropWhile Char.isDigit)
      | r => pure ([], r)
    let exponent ← match rest with
      | [] => pure (0 : Int)
      | e :: r => do
        guard (e = 'e' ∨ e = 'E')
        let (minus, r) := readSign r
        let n : Int := ofDigits 10 (← digitsOf? r)
        pure (if minus then -n else n)
    pure (.real (Binary64.ofDecimal negative (ofDigits 10 (ws ++ fraction))
      (exponent - fraction.length)))

/-- The value of a run of letters, digits, signs and points. -/
def readWord? (cs : List Char) : Option Value :=
  match String.ofList cs with
  | "null" => some .null
  | "true" => some (.bool true)
  | "false" => some (.bool false)
  | "NaN" => some (.real .nan)
  | "Infinity" => some (.real .infinity)
  | "-Infinity" => some (.real Binary64.infinity.neg)
  | _ => match cs with
    | '-' :: r => readMagnitude? true r
    | r => readMagnitude? false r

/-- The token of a single character. -/
def punctuation? : Char → Option Token
  | '\x7b' => some .openMap | '\x7d' => some .closeMap
  | '[' => some .openList | ']' => some .closeList
  | ',' => some .comma | ':' => some .colon
  | _ => none

/-- The tokens of a text. -/
def tokens? : List Char → Option (List Token)
  | [] => some []
  | c :: cs =>
    if c = ' ' ∨ c = '\n' ∨ c = '\r' ∨ c = '\t' then tokens? cs
    else if c = '"' then
      match _h : cutText cs with
      | some (raw, rest) => do
        let units ← unescape? raw
        let text ← (joinUnits units).mapM Letter.ofCode?
        let ts ← tokens? rest
        pure (textToken text :: ts)
      | none => none
    else match punctuation? c with
      | some t => (tokens? cs).map (t :: ·)
      | none => do
        let v ← readWord? (c :: cs.takeWhile isWordChar)
        let ts ← tokens? (cs.dropWhile isWordChar)
        pure (.value v :: ts)
  termination_by cs => cs.length
  decreasing_by
    · simp
    · have := cutText_length ‹_›; simp only [List.length_cons] at *; omega
    · simp
    · have := (List.dropWhile_sublist isWordChar (l := cs)).length_le
      simp only [List.length_cons]; omega

/-- An open list or map: its items so far, the last one first, and for a map the key that waits for
its value. -/
inductive Frame where
  | list (items : List Value)
  | map (fields : List (String × Value)) (key : Option String)

/-- What may come next. -/
inductive Expected where
  | value | valueOrClose | key | keyOrClose | colon | separator
  deriving DecidableEq

/-- The state of a reader: the open frames, innermost first, what may come next, and the value of
the whole text once it is complete. -/
structure Reading where
  frames : List Frame
  expected : Expected
  result : Option Value

/-- The state after a complete value. -/
def Reading.receive (r : Reading) (v : Value) : Option Reading :=
  match r.frames with
  | [] => match r.result with
    | none => some ⟨[], .separator, some v⟩
    | some _ => none
  | .list items :: fs => some ⟨.list (v :: items) :: fs, .separator, none⟩
  | .map fields (some k) :: fs => some ⟨.map ((k, v) :: fields) none :: fs, .separator, none⟩
  | .map _ none :: _ => none

/-- Whether a value may come next. -/
def Reading.takesValue (r : Reading) : Bool :=
  r.expected = .value || r.expected = .valueOrClose

/-- The state after a token. -/
def Reading.step (r : Reading) : Token → Option Reading
  | .value v => if r.takesValue then r.receive v else none
  | .text s =>
    if r.takesValue then r.receive (.str s)
    else if r.expected = .key ∨ r.expected = .keyOrClose then
      match r.frames with
      | .map fields none :: fs => some ⟨.map fields (some s) :: fs, .colon, none⟩
      | _ => none
    else none
  | .torn t => if r.takesValue then r.receive (.torn t) else none
  | .openList => if r.takesValue then some ⟨.list [] :: r.frames, .valueOrClose, r.result⟩ else none
  | .openMap => if r.takesValue then some ⟨.map [] none :: r.frames, .keyOrClose, r.result⟩ else none
  | .closeList =>
    if r.expected = .valueOrClose ∨ r.expected = .separator then
      match r.frames with
      | .list items :: fs => Reading.receive ⟨fs, .value, r.result⟩ (.list items.reverse)
      | _ => none
    else none
  | .closeMap =>
    if r.expected = .keyOrClose ∨ r.expected = .separator then
      match r.frames with
      | .map fields none :: fs =>
        Reading.receive ⟨fs, .value, r.result⟩ (.map (fieldsOf fields.reverse))
      | _ => none
    else none
  | .comma =>
    if r.expected = .separator then
      match r.frames with
      | .list _ :: _ => some { r with expected := .value }
      | .map _ _ :: _ => some { r with expected := .key }
      | [] => none
    else none
  | .colon => if r.expected = .colon then some { r with expected := .value } else none

/-- The value that a text in JSON stands for. -/
def parse? (s : String) : Option Value := do
  let ts ← tokens? s.toList
  let r ← ts.foldlM Reading.step ⟨[], .value, none⟩
  if r.frames.isEmpty then r.result else none

end ApiContract.Json
