import ApiContract.Options.Violation

/-!
Assignment to a field. Options stay as they are made; the fields of a job can be set one by one, and
then nothing is checked. Names that begin with an underscore are no fields and may be set on
everything, but for some that have a meaning of their own.
-/

namespace ApiContract

/-- What has fields. -/
inductive Model where
  | options | errorResponse | job
  deriving Repr, DecidableEq

/-- Whether the fields stay as they are made. -/
def Model.isFrozen : Model → Bool
  | .job => false
  | _ => true

/-- The name of a model. -/
def Model.name : Model → String
  | options => "GenerationOptions"
  | errorResponse => "ErrorResponseOptions"
  | job => "ConversionConfig"

/-- Why a field cannot be set. -/
inductive AssignmentError where
  | frozen (v : Violation)
  | noField (model : Model) (field : String)
  | derived (model : Model) (name : String)
  | fixed (model : Model) (name : String)
  | noClass (kind : String)
  | noFields (kind : String)
  deriving Repr

/-- The error in words. -/
def AssignmentError.message : AssignmentError → String
  | frozen v => v.problem.message
  | noField m f => "\"" ++ m.name ++ "\" object has no field \"" ++ f ++ "\""
  | derived m f => "property '" ++ f ++ "' of '" ++ m.name ++ "' object has no setter"
  | fixed m f => "attribute '" ++ f ++ "' of '" ++ m.name ++ "' objects is not writable"
  | noClass kind => "__class__ must be set to a class, not '" ++ kind ++ "' object"
  | noFields kind => "__dict__ must be set to a dictionary, not a '" ++ kind ++ "'"

/-- The names of what is derived from the fields. -/
def derivedNames : List String := ["model_fields_set", "model_extra"]

/-- The fields after a name is set that begins with an underscore. The fields as a whole can be set
too. -/
def Model.assignHidden (m : Model) (fields : List (String × Value)) (name : String) (v : Value) :
    Except AssignmentError (List (String × Value)) :=
  if name = "__fields_set__" then .error (.derived m name)
  else if name = "__weakref__" then .error (.fixed m name)
  else if name = "__class__" then .error (.noClass v.kind)
  else if name = "__dict__" then
    match v with
    | .map fs => .ok fs
    | v => .error (.noFields v.kind)
  else .ok fields

/-- The fields after one of them is set. -/
def Model.assign (m : Model) (fields : List (String × Value)) (field : String) (v : Value) :
    Except AssignmentError (List (String × Value)) :=
  if field.startsWith "_" then m.assignHidden fields field v
  else if m.isFrozen then .error (.frozen ⟨[.field field], .frozen, v⟩)
  else if derivedNames.contains field then .error (.derived m field)
  else if (fields.lookup field).isSome then .ok (putField field v fields)
  else .error (.noField m field)

end ApiContract
