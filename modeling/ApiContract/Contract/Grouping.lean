/-!
Pairing of elements by the ends of their names. An element whose name ends in the request suffix is
the request of the operation that the rest of the name names, and one whose name ends in the
response suffix is its response. Where a name ends in both, it is a response if there is a request
for it already, and a request otherwise. Of several elements in one role the last one counts.
-/

namespace ApiContract.Contract

variable {α : Type}

/-- The request and the response of an operation. -/
structure Group (α : Type) where
  name : String
  request : Option α
  response : Option α
  deriving Repr

/-- The part of a name before a suffix, if it has the suffix. Nothing is before the empty one. -/
def stem? (suffix name : String) : Option String :=
  if suffix.isEmpty then some ""
  else if suffix.toList.isSuffixOf name.toList then
    some (String.ofList (name.toList.take (name.toList.length - suffix.toList.length)))
  else none

/-- The groups where the one of a name is changed, or a new one is changed and comes last. -/
def updateGroup (name : String) (f : Group α → Group α) : List (Group α) → List (Group α)
  | [] => [f ⟨name, none, none⟩]
  | g :: gs => if g.name = name then f g :: gs else g :: updateGroup name f gs

/-- Whether there is a request for a name. -/
def hasRequest (groups : List (Group α)) (name : String) : Bool :=
  groups.any fun g => g.name == name && g.request.isSome

/-- The role that an element has, and the name of its operation. -/
inductive Role where
  | request (name : String)
  | response (name : String)
  deriving Repr, DecidableEq

/-- The role of a name, where some groups are there already. -/
def role? (requestSuffix responseSuffix : String) (groups : List (Group α)) (name : String) :
    Option Role :=
  match stem? responseSuffix name with
  | some r =>
    if hasRequest groups r then some (.response r)
    else match stem? requestSuffix name with
      | some q => some (.request q)
      | none => some (.response r)
  | none => (stem? requestSuffix name).map .request

/-- The groups after an element takes a role. -/
def assign (groups : List (Group α)) (a : α) : Role → List (Group α)
  | .request name => updateGroup name (fun g => { g with request := some a }) groups
  | .response name => updateGroup name (fun g => { g with response := some a }) groups

/-- The groups after one more element. -/
def addElement (requestSuffix responseSuffix : String) (nameOf : α → String)
    (groups : List (Group α)) (a : α) : List (Group α) :=
  match role? requestSuffix responseSuffix groups (nameOf a) with
  | some r => assign groups a r
  | none => groups

/-- The groups of elements, in the order in which their names come up. -/
def group (requestSuffix responseSuffix : String) (nameOf : α → String) (elements : List α) :
    List (Group α) :=
  elements.foldl (addElement requestSuffix responseSuffix nameOf) []

/-- The elements that have neither suffix. -/
def ungrouped (requestSuffix responseSuffix : String) (nameOf : α → String) (elements : List α) :
    List α :=
  elements.filter fun a =>
    (stem? requestSuffix (nameOf a)).isNone && (stem? responseSuffix (nameOf a)).isNone

end ApiContract.Contract
