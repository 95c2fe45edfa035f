import ApiContract.Number.Decimal
import ApiContract.Text.Base64
import ApiContract.Value.Display
import ApiContract.Value.Moment
import ApiContract.Yaml.Node

/-!
The values that nodes mean. What a node means depends on its tag. A mapping can take over the
entries of other ones; of several entries with one key the last one counts. If several nodes have no
meaning, the fault is that of the outermost of them, and of those on one level that of the first.
-/

namespace ApiContract.Yaml

open ApiContract.Files ApiContract.Number ApiContract.Text

/-! ### Scalars -/

/-- The words for truth values in a scalar that says that it is one. -/
def truthWords : List (String × Bool) :=
  [("yes", true), ("no", false), ("true", true), ("false", false), ("on", true), ("off", false)]

/-- A text without underscores. -/
def dropBars (s : String) : List Char := s.toList.filter (· != '_')

/-- The message about a text that is no whole number. -/
def malformedInt (base : Nat) (s : String) : String :=
  "invalid literal for int() with base " ++ Nat.repr base ++ ": " ++ quoted s

/-- The message about a number with too many digits. -/
def longInt (n : Nat) : String :=
  "Exceeds the limit (" ++ Nat.repr digitLimit ++ " digits) for integer string conversion: value has " ++
    Nat.repr n ++ " digits; use sys.set_int_max_str_digits() to increase the limit"

/-- A whole number in a base. -/
def intIn (base : Nat) (cs : List Char) : Except Fault Int :=
  (readIntIn base (String.ofList cs)).mapError fun
    | .malformed => .badValue (malformedInt base (String.ofList cs))
    | .tooLong n => .badValue (longInt n)

/-- A whole number without its sign. -/
def unsignedInt (cs : List Char) : Except Fault Int :=
  match cs with
  | [] => .error .emptyNumber
  | ['0'] => .ok 0
  | '0' :: 'b' :: ds => intIn 2 ds
  | '0' :: 'x' :: ds => intIn 16 ds
  | '0' :: ds => intIn 8 ('0' :: ds)
  | ds =>
    if ds.contains ':' then do
      let places ← (splitAt ':' ds).mapM (intIn 10)
      pure (places.foldl (fun n d => n * 60 + d) 0)
    else intIn 10 ds

/-- A whole number. -/
def intOf (text : String) : Except Fault Int :=
  match dropBars text with
  | [] => .error .emptyNumber
  | cs =>
    let (negative, cs) := readSign cs
    (unsignedInt cs).map fun n => if negative then -n else n

/-- A number that need not be whole. -/
def realPart (cs : List Char) : Except Fault Binary64 :=
  match readReal? (String.ofList cs) with
  | some x => .ok x
  | none => .error (.badValue ("could not convert string to float: " ++ quoted (String.ofList cs)))

/-- A number that need not be whole, without its sign. -/
def unsignedReal (cs : List Char) : Except Fault Binary64 :=
  match String.ofList cs with
  | ".inf" => .ok .infinity
  | ".nan" => .ok .nan
  | _ =>
    if cs.contains ':' then do
      match sumSixtieths (← (splitAt ':' cs).mapM realPart) with
      | some x => pure x
      | none => throw .largePlace
    else realPart cs

/-- A number that need not be whole. -/
def realOf (text : String) : Except Fault Binary64 :=
  match (lower (String.ofList (dropBars text))).toList with
  | [] => .error .emptyNumber
  | cs =>
    let (negative, cs) := readSign cs
    (unsignedReal cs).map fun x => if negative && !x.isNaN then x.neg else x

/-- A span of time in a message. -/
def shownSpan (seconds : Int) : String :=
  let days := seconds.fdiv daySeconds
  let rest := seconds.fmod daySeconds
  let part (name : String) (n : Int) : List String := if n = 0 then [] else [name ++ "=" ++ intText n]
  Value.called "datetime.timedelta" (part "days" days ++ part "seconds" rest)

/-- The message about a distance from universal time of a day or more. -/
def longOffset (seconds : Int) : String :=
  "offset must be a timedelta strictly between -timedelta(hours=24) and timedelta(hours=24), not " ++
    shownSpan seconds ++ "."

/-- A value without the fault that may be told of it. -/
def unlessFault {α : Type} (fault : Option String) (a : α) : Except Fault α :=
  match fault with
  | some m => .error (.badValue m)
  | none => .ok a

/-- A moment. A line feed at the end of the text does not count. -/
def momentOf (text : String) : Except Fault Value :=
  match readMoment (withoutLastFeed text).toList with
  | none => .error .noMoment
  | some (d, none) => unlessFault d.fault? (.date d)
  | some (d, some t) => do
    let _ ← unlessFault ((t.offset.filter (!isOffset ·)).map longOffset) ()
    unlessFault (d.fault?.or t.fault?) (.moment d t)

/-- The bytes of a scalar in base 64. -/
def bytesOf (text : String) : Except Fault (List UInt8) :=
  if text.toList.all fun c => c.toNat < 128 then
    match base64Read? text.toList with
    | some bs => .ok bs
    | none => .error .meaning
  else .error .meaning

/-- What a tag asks for. -/
inductive Purpose where
  | null | bool | int | real | bytes | moment | text
  | list | map | set | pairs
  | unknown
  deriving Repr, DecidableEq

/-- The purposes by the names of their tags. -/
def Purpose.names : List (String × Purpose) :=
  [("null", .null), ("bool", .bool), ("int", .int), ("float", .real), ("binary", .bytes),
   ("timestamp", .moment), ("str", .text), ("seq", .list), ("map", .map), ("set", .set),
   ("omap", .pairs), ("pairs", .pairs)]

/-- What a tag asks for. -/
def Purpose.ofTag (tag : String) : Purpose :=
  if coreBeginning.toList.isPrefixOf tag.toList then
    (Purpose.names.lookup (String.ofList (tag.toList.drop coreBeginning.length))).getD .unknown
  else .unknown

/-- Whether a tag asks for a collection. -/
def Purpose.isCollection : Purpose → Bool
  | .list | .map | .set | .pairs => true
  | _ => false

/-- The value of a scalar. -/
def scalarValue (purpose : Purpose) (text : String) : Except Fault Value :=
  match purpose with
  | .null => .ok .null
  | .bool => match truthWords.lookup (lower text) with
    | some b => .ok (.bool b)
    | none => .error (.noWord (lower text))
  | .int => (intOf text).map .int
  | .real => (realOf text).map .real
  | .bytes => (bytesOf text).map .bytes
  | .moment => momentOf text
  | .text => .ok (.str text)
  | _ => .error .meaning

/-! ### Mappings that take over entries -/

/-- The tag of a node, if it is known. -/
def Node.tag? : Node → Option String
  | .scalar _ tag _ | .torn _ tag _ | .sequence _ tag _ | .mapping _ tag _ => some tag
  | .again _ _ => none

/-- Whether a key says that the entries of its value are taken over. -/
def isMergeKey (key : Node) : Bool := key.tag? == some (coreTag "merge")

/-- Whether a key is the sign for a value. -/
def isValueKey (key : Node) : Bool := key.tag? == some (coreTag "value")

/-- A key; the sign for a value is a text where it is a key. -/
def plainKey (key : Node) : Node :=
  if isValueKey key then
    match key with
    | .scalar number _ text => .scalar number (coreTag "str") text
    | .torn number _ text => .torn number (coreTag "str") text
    | .sequence number _ items => .sequence number (coreTag "str") items
    | .mapping number _ entries => .mapping number (coreTag "str") entries
    | .again number isList => .again number isList
  else key

/-- The entries of a mapping that takes over what is none. They have no meaning. -/
def meaningless : List (Node × Node) := [(.sequence 0 (coreTag "seq") [], .empty)]

/-- The entries that a mapping takes over, and its own ones. -/
abbrev Merge := List (Node × Node) × List (Node × Node)

/-- All entries of a mapping. Those that it takes over come first. -/
def Merge.entries (m : Merge) : List (Node × Node) := m.1 ++ m.2

mutual

/-- The node, where all mappings have the entries that they take over. -/
def Node.merged : Node → Node
  | .sequence number tag items =>
    .sequence number tag (if Purpose.ofTag tag = .pairs then mergedPairs items else mergedItems items)
  | .mapping number tag entries =>
    if [.map, .set].contains (Purpose.ofTag tag) then
      .mapping number tag (((merge? entries).map Merge.entries).getD meaningless)
    else .mapping number tag entries
  | n => n

/-- The items of a sequence, merged. -/
def mergedItems : List Node → List Node
  | [] => []
  | n :: ns => n.merged :: mergedItems ns

/-- Items that are pairs: they keep their entries, whatever the keys are. -/
def mergedPairs : List Node → List Node
  | [] => []
  | n :: ns => (match n with
    | .mapping number tag entries => .mapping number tag (mergedInside entries)
    | n => n) :: mergedPairs ns

/-- Entries with merged keys and values. -/
def mergedInside : List (Node × Node) → List (Node × Node)
  | [] => []
  | (key, value) :: es => (key.merged, value.merged) :: mergedInside es

/-- The entries that a mapping takes over and its own ones, if it takes over nothing but mappings. -/
def merge? : List (Node × Node) → Option Merge
  | [] => some ([], [])
  | (key, value) :: es => do
    let (taken, own) ← merge? es
    if isMergeKey key then pure ((← takenFrom? value) ++ taken, own)
    else pure (taken, (plainKey key.merged, value.merged) :: own)

/-- The entries that are taken over from a mapping or from the items of a sequence. -/
def takenFrom? : Node → Option (List (Node × Node))
  | .mapping _ _ entries => (merge? entries).map Merge.entries
  | .sequence _ _ items => takenFromItems? items
  | .again _ false => some []
  | _ => none

/-- The entries that are taken over from mappings. Those of the last one come first. -/
def takenFromItems? : List Node → Option (List (Node × Node))
  | [] => some []
  | n :: ns => do
    let later ← takenFromItems? ns
    match n with
    | .mapping _ _ entries => pure (later ++ (← merge? entries).entries)
    | .again _ false => pure later
    | _ => none

end

/-! ### Texts -/

mutual

/-- The text of a node where one is asked for: a mapping has that of the value that it says is its
own. -/
def Node.text? : Node → Option String
  | .scalar _ _ text => some text
  | .mapping _ _ entries => entriesText? entries
  | _ => none

/-- The text of the first entry whose key is the sign for a value. -/
def entriesText? : List (Node × Node) → Option String
  | [] => none
  | (key, value) :: es => if isValueKey key then value.text? else entriesText? es

end

mutual

/-- The torn text of a node where a text is asked for. -/
def Node.torn? : Node → Option TornText
  | .torn _ _ text => some text
  | .mapping _ _ entries => entriesTorn? entries
  | _ => none

/-- The torn text of the first entry whose key is the sign for a value. -/
def entriesTorn? : List (Node × Node) → Option TornText
  | [] => none
  | (key, value) :: es => if isValueKey key then value.torn? else entriesTorn? es

end

/-- The value of a scalar whose text is torn. -/
def tornValue (purpose : Purpose) (text : TornText) : Except Fault Value :=
  match purpose with
  | .null => .ok .null
  | .text => .ok (.torn text)
  | .moment => .error .noMoment
  | .bool | .int | .real => .error .half
  | _ => .error .meaning

/-- The value of a node that is no collection. -/
def Node.single (n : Node) (purpose : Purpose) : Except Fault Value :=
  match n.text?, n, purpose with
  | some _, .mapping _ _ _, .moment => .error (.noText "list")
  | some text, _, purpose => scalarValue purpose text
  | none, n, purpose => match n.torn? with
    | some text => tornValue purpose text
    | none => .error .meaning

/-! ### Faults -/

/-- Whether a node can be a key: it is no collection. -/
def Node.isKey (n : Node) : Bool := (n.tag?.map fun tag => !(Purpose.ofTag tag).isCollection).getD false

/-- A fault with the level at which it is found. -/
abbrev LevelFault := Nat × Fault

/-- The fault of a node that is no scalar or is no collection but should be one. -/
def misfit (level : Nat) (purpose : Purpose) : LevelFault :=
  (if purpose.isCollection then level + 1 else level, .meaning)

/-- The fault of an item that should be a single pair, if it is none. -/
def pairFaults (level : Nat) : Node → List LevelFault
  | .mapping _ _ [_] => []
  | _ => [(level, .meaning)]

/-- The fault of a node that is no collection. -/
def singleFaults (level : Nat) (n : Node) (purpose : Purpose) : List LevelFault :=
  if purpose.isCollection then [misfit level purpose]
  else match n.single purpose with
    | .ok _ => []
    | .error e => [(level, e)]

mutual

/-- The faults in a node that is on a level. -/
def Node.faults (level : Nat) : Node → List LevelFault
  | .scalar number tag text => singleFaults level (.scalar number tag text) (.ofTag tag)
  | .torn number tag text => singleFaults level (.torn number tag text) (.ofTag tag)
  | .sequence number tag items => match Purpose.ofTag tag with
    | .list => itemFaults (level + 1) items
    | .pairs => pairsFaults (level + 1) items
    | purpose => singleFaults level (.sequence number tag items) purpose
  | .mapping number tag entries => match Purpose.ofTag tag with
    | .map | .set => entryFaults (level + 1) entries
    | purpose => singleFaults level (.mapping number tag entries) purpose
  | .again _ _ => []

/-- The faults in items. -/
def itemFaults (level : Nat) : List Node → List LevelFault
  | [] => []
  | n :: ns => n.faults level ++ itemFaults level ns

/-- The faults in items that should be pairs. -/
def pairsFaults (level : Nat) : List Node → List LevelFault
  | [] => []
  | n :: ns => (match n with
    | .mapping _ _ es => pairFaults level n ++ pairEntryFaults level es
    | _ => [(level, .meaning)]) ++ pairsFaults level ns

/-- The faults in the entries of pairs. -/
def pairEntryFaults (level : Nat) : List (Node × Node) → List LevelFault
  | [] => []
  | (key, value) :: es => key.faults level ++ value.faults level ++ pairEntryFaults level es

/-- The faults in entries. -/
def entryFaults (level : Nat) : List (Node × Node) → List LevelFault
  | [] => []
  | (key, value) :: es =>
    key.faults level ++ (if key.isKey then [] else [(level, .meaning)]) ++ value.faults level ++
      entryFaults level es

end

/-- The fault that is found first: one on the outermost level, and there the first. -/
def firstFault? : List LevelFault → Option LevelFault
  | [] => none
  | f :: fs => match firstFault? fs with
    | some g => some (if g.1 < f.1 then g else f)
    | none => some f

/-! ### Values -/

/-- The whole number that a value counts as: truth values count as zero and one. -/
def wholeNumber? : Value → Option Int
  | .int n => some n
  | .bool b => some (if b then 1 else 0)
  | .real x => x.toInt?
  | _ => none

/-- Whether two moments are the same, wherever on earth. One whose distance from universal time is not
known is not the same as one with a known distance. -/
def sameMoment (d e : Date) (t u : TimeOfDay) : Bool :=
  match t.offset, u.offset with
  | some m, some n =>
    t.microsecond == u.microsecond && secondsOf d t - m == secondsOf e u - n
  | none, none => d == e && t == u
  | _, _ => false

/-- Whether two keys are the same. Numbers are the same if they are equal, of whatever kind they
are. -/
def sameKey (a b : Value) : Bool :=
  match wholeNumber? a, wholeNumber? b with
  | some m, some n => m == n
  | none, none => match a.bare, b.bare with
    | .null, .null => true
    | .str s, .str t => s == t
    | .torn s, .torn t => s == t
    | .bytes s, .bytes t => s == t
    | .date d, .date e => d == e
    | .moment d t, .moment e u => sameMoment d e t u
    | .real x, .real y => !x.isNaN && x == y
    | _, _ => false
  | _, _ => false

/-- The entries with a key bound to a value: a key that is present keeps its place. -/
def putEntry (key v : Value) : List (Value × Value) → List (Value × Value)
  | [] => [(key, v)]
  | (k, w) :: rest => if sameKey k key then (k, v) :: rest else (k, w) :: putEntry key v rest

/-- The text of a key that is one. -/
def textKey? : Value × Value → Option (String × Value)
  | (.str k, v) => some (k, v)
  | _ => none

/-- The mapping of entries that are written one after the other. -/
def mapOf (entries : List (Value × Value)) : Value :=
  let es := entries.foldl (fun es e => putEntry e.1 e.2 es) []
  match es.mapM textKey? with
  | some fs => .map fs
  | none => .table es

/-- The set of the keys of entries. -/
def setOf (entries : List (Value × Value)) : Value :=
  .set ((entries.foldl (fun es e => putEntry e.1 e.2 es) []).map (·.1))

/-- The thing that a node is. -/
def thing (number : Nat) (v : Value) : Value := .shared ⟨number, 0, 0⟩ v

/-- The pair of an entry, as a part of the node with a number. -/
def pairOf (number index : Nat) (key value : Value) : Value :=
  .shared ⟨number, index + 1, 0⟩ (.pair key value)

/-- The value of a node that is no collection. Only moments are things of their own. -/
def singleValue (number : Nat) (n : Node) (purpose : Purpose) : Value :=
  match n.single purpose with
  | .ok (.date d) => thing number (.date d)
  | .ok (.moment d t) => thing number (.moment d t)
  | .ok v => v
  | .error _ => .null

mutual

/-- The value of a node without faults. -/
def Node.value : Node → Value
  | .scalar number tag text => singleValue number (.scalar number tag text) (.ofTag tag)
  | .torn number tag text => singleValue number (.torn number tag text) (.ofTag tag)
  | .sequence number tag items => match Purpose.ofTag tag with
    | .pairs => thing number (.list (pairValues number 0 items))
    | _ => thing number (.list (itemValues items))
  | .mapping number tag entries => match Purpose.ofTag tag with
    | .map => thing number (mapOf (entryValues entries))
    | .set => thing number (setOf (entryValues entries))
    | purpose => singleValue number (.mapping number tag entries) purpose
  | .again number isList => .again ⟨number, 0, 0⟩ isList

/-- The values of items. -/
def itemValues : List Node → List Value
  | [] => []
  | n :: ns => n.value :: itemValues ns

/-- The values of items that are pairs, from an index on. -/
def pairValues (number index : Nat) : List Node → List Value
  | [] => []
  | n :: ns => (match n with
    | .mapping _ _ es => (entryValues es).map fun e => pairOf number index e.1 e.2
    | _ => []) ++ pairValues number (index + 1) ns

/-- The values of entries. -/
def entryValues : List (Node × Node) → List (Value × Value)
  | [] => []
  | (key, value) :: es => (key.value, value.value) :: entryValues es

end

/-- What a node means. -/
def Node.meaning (n : Node) : Except Fault Value :=
  match firstFault? (n.merged.faults 0) with
  | some (_, e) => .error e
  | none => .ok n.merged.value

end ApiContract.Yaml
