import ApiContract.Value.Json

/-!
Values with torn texts in JSON. A surrogate is written as it is, like most characters, so such a value has
a text as well, though no bytes. The text is found by way of characters that stand in for the surrogates:
it has a surrogate where the texts with two different stand-ins differ.
-/

namespace ApiContract

open ApiContract.Text

/-- The character that a letter is, or the one that stands in for it. -/
def Text.Letter.filled (f : Surrogate → Char) : Letter → Char
  | char c => c
  | half s => f s

namespace Value

mutual

/-- The value with characters that stand in for surrogates. -/
def filled (f : Surrogate → Char) : Value → Value
  | torn t => str (String.ofList (t.letters.map (Letter.filled f)))
  | list vs => list (filledAll f vs)
  | map fs => map (filledFields f fs)
  | set vs => set (filledAll f vs)
  | pair a b => pair (a.filled f) (b.filled f)
  | table es => table (filledEntries f es)
  | shared id v => shared id (v.filled f)
  | v => v

/-- Values with such characters. -/
def filledAll (f : Surrogate → Char) : List Value → List Value
  | [] => []
  | v :: vs => v.filled f :: filledAll f vs

/-- Fields with such characters. -/
def filledFields (f : Surrogate → Char) : List (String × Value) → List (String × Value)
  | [] => []
  | (k, v) :: fs => (k, v.filled f) :: filledFields f fs

/-- Entries with such characters. -/
def filledEntries (f : Surrogate → Char) : List (Value × Value) → List (Value × Value)
  | [] => []
  | (k, v) :: es => (k.filled f, v.filled f) :: filledEntries f es

end

end Value

namespace Json

/-- The first of the characters that stand in for surrogates, one for each of them. They are for private
use, and JSON writes them as they are. -/
def firstStandIn : Nat := 0xe000

/-- The character that stands in for a surrogate and for no other one. -/
def standIn (s : Surrogate) : Char := Char.ofNat (firstStandIn + s.val)

/-- The character that stands in for all surrogates alike. -/
def sameStandIn : Char := '\ufffd'

/-- The letter that is told by what stands in for it in two ways. -/
def letterOf (own same : Char) : Letter :=
  if own = same then .char own else .half (Fin.ofNat 0x800 (own.toNat - firstStandIn))

/-- The value as text, letter by letter. -/
def letters (d : Depth) (v : Value) : Except Obstacle (List Letter) := do
  let own ← write d (v.filled standIn)
  let same ← write d (v.filled fun _ => sameStandIn)
  pure (List.zipWith letterOf own same)

end Json

end ApiContract
