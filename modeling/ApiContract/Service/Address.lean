import ApiContract.Files.Path
import ApiContract.Number.Numeral
import ApiContract.Value.JsonReader

/-!
Addresses of places on a network: a scheme, a host with a port, and a path. A host is a name, four
bytes in decimal, or eight groups of hexadecimal digits in brackets.
-/

namespace ApiContract.Service

open ApiContract.Files ApiContract.Json ApiContract.Number

/-- An address: its scheme, what stands for its host, and its path. -/
structure Address where
  scheme : List Char
  authority : List Char
  path : List Char
  deriving Repr

namespace Address

/-- A character of a scheme. -/
def isSchemeChar (c : Char) : Bool := c.isAlphanum || c == '+' || c == '.' || c == '-'

/-- The scheme in front, which may be empty, and what follows its colon. -/
def cutScheme (cs : List Char) : List Char × List Char :=
  let scheme := cs.takeWhile isSchemeChar
  match cs.dropWhile isSchemeChar with
  | ':' :: rest => if (scheme.head?.map Char.isAlpha).getD true then (scheme, rest) else ([], cs)
  | _ => ([], cs)

/-- A character that does not end a path. -/
def isPathChar (c : Char) : Bool := c != '?' && c != '#'

/-- A character that does not end the part for the host. -/
def isHostChar (c : Char) : Bool := isPathChar c && c != '/'

/-- An address from text, without what comes after its path. -/
def ofText (cs : List Char) : Address :=
  let (scheme, rest) := cutScheme cs
  match rest with
  | '/' :: '/' :: rest =>
    ⟨scheme, rest.takeWhile isHostChar, (rest.dropWhile isHostChar).takeWhile isPathChar⟩
  | rest => ⟨scheme, [], rest.takeWhile isPathChar⟩

/-- What stands for the host and the port, after the name of a user if there is one. -/
def place (a : Address) : List Char := (a.authority.reverse.takeWhile (· != '@')).reverse

/-- The host, and the port that may follow it after a colon. -/
def hostAndPort (a : Address) : List Char × List Char :=
  let host := if a.place.head? = some '[' ∧ a.place.contains ']' then
      (a.place.reverse.dropWhile (· != ']')).reverse
    else a.place.takeWhile (· != ':')
  match a.place.drop host.length with
  | ':' :: port => (host, port)
  | port => (host, port)

/-- The host. -/
def host (a : Address) : List Char := a.hostAndPort.1

/-- What stands for the port. -/
def port (a : Address) : List Char := a.hostAndPort.2

/-- Whether an address tells scheme and host. -/
def isAbsolute (a : Address) : Bool := !a.scheme.isEmpty && !a.host.isEmpty

/-- The scheme in small letters. -/
def schemeName (a : Address) : String := String.ofList (a.scheme.map Char.toLower)

/-- The number of the port, if one is given. -/
def portNumber? (a : Address) : Option Int := readInt? (String.ofList a.port)

/-- The port that a scheme has unless another is given. -/
def usualPort? (scheme : String) : Option Int :=
  [("ftp", 21), ("http", 80), ("https", 443), ("ws", 80), ("wss", 443)].lookup scheme

/-! ### Hosts -/

/-- Whether a text is made of runs of digits with so many single characters between them. -/
def isNumbers : (between : Nat) → (inRun : Bool) → List Char → Bool
  | n, inRun, [] => n == 0 && inRun
  | n, false, c :: cs => c.isDigit && isNumbers n true cs
  | 0, true, c :: cs => c.isDigit && isNumbers 0 true cs
  | n + 1, true, c :: cs => c.isDigit && isNumbers (n + 1) true cs || isNumbers n false cs

/-- A number of at most three digits below 256, without zeros in front. -/
def isByte (cs : List Char) : Bool :=
  !cs.isEmpty && cs.all Char.isDigit && cs.length ≤ 3 && (cs.length == 1 || cs.head? != some '0') &&
    ofDigits 10 (cs.map fun c => c.toNat - '0'.toNat) < 256

/-- Four bytes in decimal, with points between them. -/
def isFourBytes (cs : List Char) : Bool :=
  (splitAt '.' cs).length == 4 && (splitAt '.' cs).all isByte

/-- A group of at most four hexadecimal digits. -/
def isGroup (cs : List Char) : Bool :=
  !cs.isEmpty && cs.length ≤ 4 && cs.all fun c => (hexValue? c).isSome

/-- The groups between colons, of which there are at least two. Four bytes in decimal at the end
count as two groups. -/
def groups? (cs : List Char) : Option (List (List Char)) :=
  let gs := splitAt ':' cs
  let last := gs.getLastD []
  if gs.length < 3 then none
  else if !last.contains '.' then some gs
  else if isFourBytes last then some (gs.dropLast ++ [['0'], ['0']])
  else none

/-- Eight groups, or fewer where one inner place is left empty for groups of zeros. An empty place
at either end stands beside that one only. -/
def isEightGroups (cs : List Char) : Bool :=
  match groups? cs with
  | none => false
  | some gs =>
    let inner := (gs.drop 1).dropLast
    match inner.count [] with
    | 0 => gs.length == 8 && gs.all isGroup
    | 1 =>
      let front := gs.take (1 + inner.idxOf [])
      let back := gs.drop (2 + inner.idxOf [])
      let part (empty : Bool) (gs : List (List Char)) : Option (List (List Char)) :=
        if !empty then some gs else if gs.length = 1 then some [] else none
      match part (front.head? == some []) front, part (back.getLast? == some []) back with
      | some front, some back =>
        (front ++ back).length ≤ 7 && (front ++ back).all isGroup && gs.length ≤ 9
      | _, _ => false
    | _ => false

/-- Eight groups in brackets, and perhaps the name of a zone after a percent sign. -/
def isBracketed (cs : List Char) : Bool :=
  let inner := (cs.drop 1).dropLast
  isEightGroups (inner.takeWhile (· != '%')) && match inner.dropWhile (· != '%') with
    | [] => true
    | _ :: zone => !zone.isEmpty && !zone.contains '%'

/-- Whether a host begins and ends with a bracket. -/
def hasBrackets (cs : List Char) : Bool := cs.head? == some '[' && cs.getLast? == some ']'

/-- The text of host and port. A usual port is not told. -/
def placeText (a : Address) : String :=
  String.ofList a.host ++ match a.portNumber? with
    | some n => if usualPort? (String.ofList a.scheme) = some n then "" else ":" ++ intText n
    | none => ""

end Address

end ApiContract.Service
