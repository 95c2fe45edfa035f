import ApiContract.Service.Address
import ApiContract.Text.Quoted
import ApiContract.Text.Utf8

/-!
Where a request goes. Its target is the address of a place, which may name a scheme and a host, or only
the path of a place in this service. Single dots in a path are of no account and two dots lead back;
after that, characters may be written by the numbers of their bytes, and these in the same way.
-/

namespace ApiContract.Service

open ApiContract.Files ApiContract.Json ApiContract.Text

/-- Why a target leads nowhere. -/
inductive TargetFault where
  | length
  | control (c : Char) (position : Nat)
  | bytes (host : String)
  | groups (host : String)
  | port (text : String)
  | slashes
  | colon
  | scheme (name : String)
  | brackets (text : String)
  deriving Repr, DecidableEq

/-- The fault in words. -/
def TargetFault.message : TargetFault → String
  | length => "URL too long"
  | bytes h => "Invalid IPv4 address: " ++ quoted h
  | groups h => "Invalid IPv6 address: " ++ quoted h
  | port p => "Invalid port: " ++ quoted p
  | scheme s => quoted s
  | brackets t => "invalid literal for int() with base 10: " ++ quoted t
  | control c i => "Invalid non-printable ASCII character in URL, " ++ quoted (String.ofList [c]) ++
      " at position " ++ Nat.repr i ++ "."
  | slashes => "Relative URLs cannot have a path starting with '//'"
  | colon => "Relative URLs cannot have a path starting with ':'"

/-- Whether the target itself is sound, and only the way to it is missing. -/
def TargetFault.isOnTheWay : TargetFault → Bool
  | scheme _ | brackets _ => true
  | _ => false

/-! ### Faults of an address -/

/-- The schemes of a service. -/
def schemes : List String := ["http", "https", "ws", "wss"]

/-- What is wrong with the host of an address. -/
def Address.hostFault? (a : Address) : Option TargetFault :=
  if Address.isNumbers 3 false a.host then
    if Address.isFourBytes a.host then none else some (.bytes (String.ofList a.host))
  else if Address.hasBrackets a.host && !Address.isBracketed a.host then some (.groups (String.ofList a.host))
  else none

/-- What is wrong with the port of an address. -/
def Address.portFault? (a : Address) : Option TargetFault :=
  if a.port.isEmpty || a.portNumber?.isSome then none else some (.port (String.ofList a.port))

/-- What is wrong with the path of an address that tells neither scheme nor host. -/
def Address.pathFault? (a : Address) : Option TargetFault :=
  if !a.scheme.isEmpty || !a.authority.isEmpty then none
  else match a.path with
    | '/' :: '/' :: _ => some .slashes
    | ':' :: _ => some .colon
    | _ => none

/-- Why there is no way to a place that an address tells. -/
def Address.wayFault? (a : Address) : Option TargetFault :=
  if !a.isAbsolute then none
  else if !schemes.contains a.schemeName then some (.scheme a.schemeName)
  else if Address.hasBrackets a.host then
    some (.brackets (String.ofList ((a.placeText.toList.dropWhile (· != ':')).drop 1)))
  else none

/-- What is wrong with an address. -/
def Address.fault? (a : Address) : Option TargetFault :=
  a.hostFault?.or (a.portFault?.or (a.pathFault?.or a.wayFault?))

/-- Parts of a path where dots are followed, after other parts, the last one first. -/
def followDots (before : List (List Char)) : List (List Char) → List (List Char)
  | [] => before.reverse
  | ['.'] :: ps => followDots before ps
  | ['.', '.'] :: ps => followDots (if before = [[]] then before else before.drop 1) ps
  | p :: ps => followDots (p :: before) ps

/-- A path where dots are followed. -/
def withoutDots (path : List Char) : List Char :=
  ['/'].intercalate (followDots [] (splitAt '/' path))

/-- The bytes of a text where some may be written as numbers. -/
def numberedBytes : List Char → List UInt8
  | '%' :: a :: b :: cs => match hexValue? a, hexValue? b with
    | some m, some n => UInt8.ofNat (m * 16 + n) :: numberedBytes cs
    | _, _ => encodeChar '%' ++ numberedBytes (a :: b :: cs)
  | c :: cs => encodeChar c ++ numberedBytes cs
  | [] => []

/-- A text without the numbers of bytes. -/
def withoutNumbers (cs : List Char) : List Char := decodeLenient (numberedBytes cs)

/-- The first character of a target that is a control of ASCII, and its position. -/
def control? (cs : List Char) : Option (Char × Nat) :=
  cs.zipIdx.find? fun p => p.1.toNat < 0x20 || p.1.toNat == 0x7f

/-- The number of characters that a target may have. -/
def lengthLimit : Nat := 65536

/-- The path that a target leads to. -/
def targetPath (target : String) : Except TargetFault (List Char) :=
  let a := Address.ofText target.toList
  if target.length > lengthLimit then .error .length
  else match control? target.toList, a.fault? with
  | some (c, i), _ => .error (.control c i)
  | none, some f => .error f
  | none, none =>
    let path := withoutDots (if a.isAbsolute then a.path else '/' :: a.path.dropWhile (· == '/'))
    .ok (withoutNumbers (withoutNumbers (if path.isEmpty then ['/'] else path)))

/-! ### Headers on their way -/

/-- Characters in a header that is sent which ASCII has not: their numbers, and the position of the
first of them. -/
structure HeaderFault where
  codes : List Nat
  position : Nat
  deriving Repr, DecidableEq

/-- A character by its number, after a backslash. -/
def numberedChar (n : Nat) : List Char :=
  '\\' :: (if n < 0x100 then 'x' :: hex 2 n else if n < 0x10000 then 'u' :: hex 4 n else 'U' :: hex 8 n)

/-- The fault in words. -/
def HeaderFault.message (f : HeaderFault) : String :=
  let what := match f.codes with
    | [n] => "character '" ++ String.ofList (numberedChar n) ++ "' in position " ++ Nat.repr f.position
    | ns => "characters in position " ++ Nat.repr f.position ++ "-" ++
        Nat.repr (f.position + ns.length - 1)
  "'ascii' codec can't encode " ++ what ++ ": ordinal not in range(128)"

/-- A character of ASCII. -/
def isAsciiChar (c : Char) : Bool := c.toNat < 0x80

/-- What is wrong with a text in a header that is sent, if anything is. -/
def headerFault? (text : String) : Option HeaderFault :=
  let front := text.toList.takeWhile isAsciiChar
  match (text.toList.dropWhile isAsciiChar).takeWhile (!isAsciiChar ·) with
  | [] => none
  | cs => some ⟨cs.map Char.toNat, front.length⟩

/-- What is wrong with headers that are sent, if anything is. -/
def headersFault? (headers : List (String × String)) : Option HeaderFault :=
  headers.findSome? fun h => (headerFault? h.1).or (headerFault? h.2)

end ApiContract.Service
