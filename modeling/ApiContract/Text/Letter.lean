import ApiContract.Text.Quoted

/-!
Texts that programs can hold although no encoding has bytes for them. A surrogate stands for half of a
character when it is one of two; by itself it stands for nothing. A text with such halves is torn.
-/

namespace ApiContract.Text

/-- A surrogate, counted from the first one. -/
abbrev Surrogate := Fin 0x800

/-- The code of the first surrogate. -/
def firstSurrogate : Nat := 0xd800

/-- The code of a surrogate. -/
def Surrogate.code (s : Surrogate) : Nat := firstSurrogate + s.val

/-- A letter of a text: a character, or a surrogate by itself. -/
inductive Letter where
  | char (c : Char)
  | half (s : Surrogate)
  deriving Repr, DecidableEq

namespace Letter

/-- The letter of a code, if there is one. -/
def ofCode? (n : Nat) : Option Letter :=
  if h : n.isValidChar then some (.char (Char.ofNatAux n h))
  else if h : n - firstSurrogate < 0x800 then some (.half ⟨n - firstSurrogate, h⟩)
  else none

theorem ofCode?_toNat (c : Char) : ofCode? c.toNat = some (.char c) := by
  have hvalid : c.toNat.isValidChar := c.valid
  rw [ofCode?, dif_pos hvalid]
  rfl

/-- The character that a letter is. -/
def char? : Letter → Option Char
  | char c => some c
  | half _ => none

/-- The letter in a quoted text. -/
def quote (quote : Char) : Letter → List Char
  | char c => quoteChar quote c
  | half s => '\\' :: 'u' :: hex 4 s.code

end Letter

/-- A text that is torn: what comes before the first surrogate, that, and what comes after it. -/
structure TornText where
  front : List Char
  half : Surrogate
  rest : List Letter
  deriving Repr, DecidableEq

namespace TornText

/-- The letters of a torn text. -/
def letters (t : TornText) : List Letter := t.front.map .char ++ .half t.half :: t.rest

/-- The torn text with one more character in front. -/
def cons (c : Char) (t : TornText) : TornText := { t with front := c :: t.front }

/-- The torn text between quotes. -/
def quoted (t : TornText) : String :=
  let q := quoteFor (t.letters.filterMap Letter.char?)
  String.ofList (q :: t.letters.flatMap (Letter.quote q) ++ [q])

/-- How many surrogates come one after the other in the first place. -/
def halves (t : TornText) : Nat := (t.rest.takeWhile (·.char?.isNone)).length + 1

/-- The message about a text that has no bytes. -/
def message (t : TornText) : String :=
  let start := t.front.length
  let place := if t.halves = 1 then
      "character '\\u" ++ String.ofList (hex 4 t.half.code) ++ "' in position " ++ Nat.repr start
    else "characters in position " ++ Nat.repr start ++ "-" ++ Nat.repr (start + t.halves - 1)
  "'utf-8' codec can't encode " ++ place ++ ": surrogates not allowed"

end TornText

/-- The characters of a text, which must not be torn. -/
def wholeText : List Letter → Except TornText (List Char)
  | [] => .ok []
  | .char c :: ls => match wholeText ls with
    | .ok cs => .ok (c :: cs)
    | .error t => .error (t.cons c)
  | .half s :: ls => .error ⟨[], s, ls⟩

@[simp] theorem wholeText_map_char (cs : List Char) : wholeText (cs.map .char) = .ok cs := by
  induction cs with
  | nil => rfl
  | cons c cs ih => rw [List.map_cons, wholeText, ih]

end ApiContract.Text
