import ApiContract.Text.LetterCase
import ApiContract.Value

/-!
Paths of files. A path is absolute or not, and has parts between slashes; empty parts and parts that
are a single dot are of no account, but two dots stay. Exactly two slashes in front are not the same
as one.
-/

namespace ApiContract.Files

open ApiContract.Text

/-- A path: how many slashes it begins with, up to two, and its parts. -/
structure Path where
  slashes : Nat
  parts : List String
  deriving Repr, DecidableEq

/-- The pieces of a text between the places where a character stands. -/
def splitAt (sep : Char) : List Char → List (List Char)
  | [] => [[]]
  | c :: cs =>
    if c = sep then [] :: splitAt sep cs
    else match splitAt sep cs with
      | piece :: pieces => (c :: piece) :: pieces
      | [] => [[c]]

namespace Path

/-- Whether a piece between slashes counts as a part. -/
def isPart (cs : List Char) : Bool := !cs.isEmpty && cs != ['.']

/-- The parts of a text. -/
def partsOf (cs : List Char) : List String :=
  ((splitAt '/' cs).filter isPart).map String.ofList

/-- How many slashes a text begins with, where more than two count as one. -/
def slashesOf : List Char → Nat
  | '/' :: '/' :: '/' :: _ => 1
  | '/' :: '/' :: _ => 2
  | '/' :: _ => 1
  | _ => 0

/-- The path that a text names. -/
def ofText (s : String) : Path := ⟨slashesOf s.toList, partsOf s.toList⟩

/-- The path as text; the one without parts is a dot. -/
def text (p : Path) : String :=
  if p.slashes = 0 ∧ p.parts.isEmpty then "."
  else String.ofList (List.replicate p.slashes '/') ++ "/".intercalate p.parts

/-- The path without its last part. -/
def parent (p : Path) : Path := ⟨p.slashes, p.parts.dropLast⟩

/-- The path from a directory on, unless it is absolute. -/
def join (dir p : Path) : Path :=
  if p.slashes = 0 then ⟨dir.slashes, dir.parts ++ p.parts⟩ else p

/-- The last part. -/
def name (p : Path) : String := p.parts.getLast?.getD ""

/-- The last part of a name from its last point on, and what is before it. A point in front or at
the end makes no suffix. -/
def splitSuffix (name : List Char) : List Char × List Char :=
  match name.reverse.span (· ≠ '.') with
  | (tail, _ :: stem) =>
    if tail.isEmpty ∨ stem.isEmpty then (name, []) else (stem.reverse, '.' :: tail.reverse)
  | (_, []) => (name, [])

/-- The suffix of the last part. -/
def suffix (p : Path) : String := String.ofList (splitSuffix p.name.toList).2

/-- The last part without its suffix. -/
def stem (p : Path) : String := String.ofList (splitSuffix p.name.toList).1

end Path

end ApiContract.Files
