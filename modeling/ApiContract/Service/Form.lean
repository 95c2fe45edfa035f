import ApiContract.Options.Reader
import ApiContract.Service.Refusal

/-!
Options from a form. Fields that are absent leave the default; a file declares the error response.
-/

namespace ApiContract.Service

open ApiContract.Text

/-- A form: its fields, and the content of the file that declares the error response. -/
structure Form where
  fields : List (String × Value)
  errorFile : Option (List UInt8)
  deriving Repr

namespace Form

/-- The value of a field; null is no value. -/
def value? (f : Form) (name : String) : Option Value :=
  match f.fields.lookup name with
  | some .null => none
  | v => v

/-- The method in small letters; the empty text is none. -/
def method? (f : Form) : Option Value :=
  match f.value? "http_method" with
  | some (.str s) => if s.isEmpty then none else some (.str (lower s))
  | v => v

/-- A field under its name. -/
def named (name : String) (v : Option Value) : List (String × Value) := (v.map (name, ·)).toList

/-- The fields of the options, without the error response. -/
def optionFields (f : Form) : Value :=
  .map (named "request_suffix" (f.value? "request_suffix") ++
    named "response_suffix" (f.value? "response_suffix") ++
    named "use_schema_name_in_path" (f.value? "use_schema_name_in_path") ++
    named "http_method" f.method? ++ named "content_type" (f.value? "content_type") ++
    named "default_type" (f.value? "default_type"))

/-- The fields of the error response that a file with this text declares. -/
def errorFields (f : Form) (text : String) : Value :=
  .map (("error_xsd_content", .str text) :: named "error_type_name" (f.value? "error_type_name") ++
    named "error_status_code" (f.value? "error_status_code") ++
    named "error_description" (f.value? "error_description"))

/-- Refuses violations. -/
def checked {α : Type} (model : String) (c : Checked α) : Except Refusal α :=
  c.mapError fun vs => .badOptions (Violations.mk model vs).message

/-- The error response of a form. -/
def error (f : Form) (d : Defaults) : Except Refusal (Option ErrorResponse) :=
  match f.errorFile with
  | none => .ok none
  | some bs => match decodeStrict bs with
    | .error u => .error (.badOptions u.message)
    | .ok cs =>
      (checked "ErrorResponseOptions"
        (ErrorResponse.ofValue d [] (f.errorFields (String.ofList cs)))).map some

/-- The options of a form. -/
def options (f : Form) (d : Defaults) : Except Refusal Options := do
  let e ← f.error d
  let o ← checked "GenerationOptions" (Options.ofValue d [] f.optionFields)
  pure { o with error := e }

end Form

end ApiContract.Service
