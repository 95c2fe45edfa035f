import ApiContract.Value

/-!
Values that are in several places. To look into a shared value is to unfold it: where it is within
itself, it takes its own place there. A copy of a value shares its parts as the value does, but none
with the value itself. For writing, the things that are found more than once are numbered.
-/

namespace ApiContract.Value

/-- Whether a value is a list. -/
def isList : Value → Bool
  | list _ => true
  | _ => false

/-! ### Looking inside -/

mutual

/-- The value with another one in the place of a thing within itself. -/
def replace (id : Identity) (w : Value) : Value → Value
  | list vs => list (replaceAll id w vs)
  | map fs => map (replaceFields id w fs)
  | set vs => set (replaceAll id w vs)
  | pair a b => pair (replace id w a) (replace id w b)
  | table es => table (replaceEntries id w es)
  | shared i v => shared i (replace id w v)
  | again i l => if i = id then w else again i l
  | v => v
  termination_by structural v => v

/-- Values with another one in the place of a thing. -/
def replaceAll (id : Identity) (w : Value) : List Value → List Value
  | [] => []
  | v :: vs => replace id w v :: replaceAll id w vs
  termination_by structural vs => vs

/-- Fields with a value in the place of a thing. -/
def replaceFields (id : Identity) (w : Value) : List (String × Value) → List (String × Value)
  | [] => []
  | (k, v) :: fs => (k, replace id w v) :: replaceFields id w fs
  termination_by structural fs => fs

/-- Entries with a value in the place of a thing. -/
def replaceEntries (id : Identity) (w : Value) : List (Value × Value) → List (Value × Value)
  | [] => []
  | (k, v) :: es => (replace id w k, replace id w v) :: replaceEntries id w es
  termination_by structural es => es

end

/-- What is inside of a value, unfolded. -/
def inside : Value → Value
  | shared id v => replace id (shared id v) v
  | v => v

/-! ### Nesting -/

mutual

/-- How many lists and mappings are one inside the other in a value. -/
def depth : Value → Nat
  | list vs | set vs => depthOfAll vs + 1
  | map fs => depthOfFields fs + 1
  | pair a b => max a.depth b.depth + 1
  | table es => depthOfEntries es + 1
  | shared _ v => v.depth
  | _ => 0

/-- The depth of the deepest of some values. -/
def depthOfAll : List Value → Nat
  | [] => 0
  | v :: vs => max v.depth (depthOfAll vs)

/-- The depth of the deepest field. -/
def depthOfFields : List (String × Value) → Nat
  | [] => 0
  | (_, v) :: fs => max v.depth (depthOfFields fs)

/-- The depth of the deepest key or value. -/
def depthOfEntries : List (Value × Value) → Nat
  | [] => 0
  | (k, v) :: es => max (max k.depth v.depth) (depthOfEntries es)

end

/-! ### Copies -/

/-- Whether a copy of a value is that value itself. -/
def isAtom : Value → Bool
  | null | bool _ | int _ | real _ | str _ | bytes _ | torn _ => true
  | _ => false

/-- Whether a copy of what a thing is would be no other one: a pair of atoms. -/
def isFixed : Value → Bool
  | pair a b => a.isAtom && b.isAtom
  | _ => false

mutual

/-- The copy of a value with a number. -/
def copied (n : Nat) : Value → Value
  | list vs => list (copiedAll n vs)
  | map fs => map (copiedFields n fs)
  | set vs => set (copiedAll n vs)
  | pair a b => pair (a.copied n) (b.copied n)
  | table es => table (copiedEntries n es)
  | shared id v => shared (if v.isFixed then id else { id with copy := n }) (v.copied n)
  | again id l => again { id with copy := n } l
  | v => v

/-- The copies of values. -/
def copiedAll (n : Nat) : List Value → List Value
  | [] => []
  | v :: vs => v.copied n :: copiedAll n vs

/-- The copies of fields. -/
def copiedFields (n : Nat) : List (String × Value) → List (String × Value)
  | [] => []
  | (k, v) :: fs => (k, v.copied n) :: copiedFields n fs

/-- The copies of entries. -/
def copiedEntries (n : Nat) : List (Value × Value) → List (Value × Value)
  | [] => []
  | (k, v) :: es => (k.copied n, v.copied n) :: copiedEntries n es

end

/-! ### Things that are found more than once -/

/-- The things that are found so far, and those among them that are found again, the last one first. -/
structure Sightings where
  once : List Identity
  twice : List Identity
  deriving Repr

/-- The sightings after a thing is found again. -/
def Sightings.repeat (s : Sightings) (id : Identity) : Sightings :=
  if s.twice.contains id then s else { s with twice := id :: s.twice }

mutual

/-- The things in a value, after others. What is found again is not looked into. -/
def sightings (s : Sightings) : Value → Sightings
  | list vs => sightingsAll s vs
  | map fs => sightingsFields s fs
  | set vs => sightingsAll s vs
  | pair a b => b.sightings (a.sightings s)
  | table es => sightingsEntries s es
  | shared id v =>
    if s.once.contains id then s.repeat id else v.sightings { s with once := id :: s.once }
  | again id _ => s.repeat id
  | _ => s

/-- The things in values. -/
def sightingsAll (s : Sightings) : List Value → Sightings
  | [] => s
  | v :: vs => sightingsAll (v.sightings s) vs

/-- The things in fields. -/
def sightingsFields (s : Sightings) : List (String × Value) → Sightings
  | [] => s
  | (_, v) :: fs => sightingsFields (v.sightings s) fs

/-- The things in entries. -/
def sightingsEntries (s : Sightings) : List (Value × Value) → Sightings
  | [] => s
  | (k, v) :: es => sightingsEntries (v.sightings (k.sightings s)) es

end

/-- The things in a value that are found more than once, in the order in which that turns out. -/
def repeated (v : Value) : List Identity := (v.sightings ⟨[], []⟩).twice.reverse

mutual

/-- The value where a named thing has the number of its name, and nothing else is a thing. Only the first
place of a thing holds what it is. -/
def link (names seen : List Identity) : Value → Value × List Identity
  | list vs =>
    let (vs, seen) := linkAll names seen vs
    (list vs, seen)
  | map fs =>
    let (fs, seen) := linkFields names seen fs
    (map fs, seen)
  | set vs =>
    let (vs, seen) := linkAll names seen vs
    (set vs, seen)
  | pair a b =>
    let (a, seen) := link names seen a
    let (b, seen) := link names seen b
    (pair a b, seen)
  | table es =>
    let (es, seen) := linkEntries names seen es
    (table es, seen)
  | shared id v => match names.idxOf? id with
    | none => link names seen v
    | some i =>
      if seen.contains id then (again ⟨i + 1, 0, 0⟩ v.isList, seen)
      else
        let (v, seen) := link names (id :: seen) v
        (shared ⟨i + 1, 0, 0⟩ v, seen)
  | again id l => (again ⟨(names.idxOf id) + 1, 0, 0⟩ l, seen)
  | v => (v, seen)

/-- Values with numbered things. -/
def linkAll (names seen : List Identity) : List Value → List Value × List Identity
  | [] => ([], seen)
  | v :: vs =>
    let (v, seen) := link names seen v
    let (vs, seen) := linkAll names seen vs
    (v :: vs, seen)

/-- Fields with numbered things. -/
def linkFields (names seen : List Identity) :
    List (String × Value) → List (String × Value) × List Identity
  | [] => ([], seen)
  | (k, v) :: fs =>
    let (v, seen) := link names seen v
    let (fs, seen) := linkFields names seen fs
    ((k, v) :: fs, seen)

/-- Entries with numbered things. -/
def linkEntries (names seen : List Identity) :
    List (Value × Value) → List (Value × Value) × List Identity
  | [] => ([], seen)
  | (k, v) :: es =>
    let (k, seen) := link names seen k
    let (v, seen) := link names seen v
    let (es, seen) := linkEntries names seen es
    ((k, v) :: es, seen)

end

/-- The value where what is found more than once is numbered, from one on. -/
def linked (v : Value) : Value := (link v.repeated [] v).1

end ApiContract.Value
