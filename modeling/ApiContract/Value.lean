import ApiContract.Number.Binary64
import ApiContract.Text.Letter

/-!
Values: the data that documents, option files and requests are made of. A mapping with text keys
is a `map` and keeps the order in which its keys arrived. Option files can hold more than a
document needs: moments, bytes, sets, pairs, and mappings with other keys; those have
constructors of their own, at the end. So do texts that are torn, and values that are in several
places at once, or in themselves.
-/

namespace ApiContract

/-- A day of the calendar. -/
structure Date where
  year : Nat
  month : Nat
  day : Nat
  deriving Repr, DecidableEq

/-- A time of day to the microsecond, with its distance from universal time in seconds if that is
given. -/
structure TimeOfDay where
  hour : Nat
  minute : Nat
  second : Nat
  microsecond : Nat
  offset : Option Int
  deriving Repr, DecidableEq

/-- Which thing a value is, if it can be in several places: the number of the node that it comes from,
the number of the part of that node, and the number of the copy. -/
structure Identity where
  node : Nat
  part : Nat
  copy : Nat
  deriving Repr, DecidableEq

/-- A value. A value that is `shared` is the same thing wherever its identity is found, and `again`
stands for a list or a mapping with that identity within itself. -/
inductive Value where
  | null
  | bool (b : Bool)
  | int (n : Int)
  | real (x : Binary64)
  | str (s : String)
  | list (items : List Value)
  | map (fields : List (String × Value))
  | bytes (bs : List UInt8)
  | date (d : Date)
  | moment (d : Date) (t : TimeOfDay)
  | set (members : List Value)
  | pair (first second : Value)
  | table (entries : List (Value × Value))
  | torn (t : Text.TornText)
  | shared (id : Identity) (content : Value)
  | again (id : Identity) (isList : Bool)
  deriving Repr, Inhabited

/-- The fields of a map with `key` bound to `v`: a key that is present keeps its place. -/
def putField {α : Type} (key : String) (v : α) : List (String × α) → List (String × α)
  | [] => [(key, v)]
  | (k, w) :: rest => if k = key then (key, v) :: rest else (k, w) :: putField key v rest

/-- The fields that pairs written one after the other make. -/
def fieldsOf {α : Type} (pairs : List (String × α)) : List (String × α) :=
  pairs.foldl (fun fs p => putField p.1 p.2 fs) []

namespace Value

/-- The value of a field. -/
def field? (v : Value) (key : String) : Option Value :=
  match v with
  | map fields => fields.lookup key
  | _ => none

/-- What a value is apart from its identity. -/
def bare : Value → Value
  | shared _ v => v.bare
  | v => v

/-- A text, or nothing. -/
def ofText? : Option String → Value
  | some s => str s
  | none => null

end Value

end ApiContract
