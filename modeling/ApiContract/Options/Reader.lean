import ApiContract.Options.Basic
import ApiContract.Options.Violation
import ApiContract.Value.Sharing
import ApiContract.Yaml.Meaning

/-!
Options from values. A field that is absent has its default, which is not checked. A condition on
all fields together is asked for once each of them is right. Fields that are not known are passed
over.
-/

namespace ApiContract

open ApiContract.Text ApiContract.Number

/-! ### Single values -/

/-- A violation by itself. -/
def violation {α : Type} (place : List Step) (p : Problem) (v : Value) : Checked α :=
  .error [⟨place, p, v⟩]

/-- A text, which is not torn. Bytes are decoded. -/
def checkText (place : List Step) (v : Value) : Checked String :=
  match v with
  | .str s => .ok s
  | .bytes bs => match decodeStrict bs with
    | .ok cs => .ok (String.ofList cs)
    | .error _ => violation place .noUnicode v
  | .torn t => violation place .noUnicode (.torn t)
  | v => violation place .noString v

/-- A text that is not empty. -/
def checkSuffix (place : List Step) (v : Value) : Checked String :=
  match checkText place v with
  | .ok s => if s.isEmpty then violation place .tooShort v else .ok s
  | .error e => .error e

/-- A text or nothing. -/
def checkOptionalText (place : List Step) (v : Value) : Checked (Option String) :=
  match v with
  | .null => .ok none
  | v => (checkText place v).map some

/-- The words for truth. -/
def yesWords : List String := ["1", "on", "t", "true", "y", "yes"]

/-- The words for falsehood. -/
def noWords : List String := ["0", "off", "f", "false", "n", "no"]

/-- The truth value of a word, whatever its letter case. -/
def boolOfText? (s : String) : Option Bool :=
  let w := String.ofList (s.toList.map Char.toLower)
  if yesWords.contains w then some true else if noWords.contains w then some false else none

/-- One more than the largest whole number in sixty-four bits with a sign. -/
def wordBound : Int := 0x8000000000000000

/-- Whether a whole number has room in sixty-four bits with a sign. -/
def isWord (n : Int) : Bool := -wordBound ≤ n && n < wordBound

/-- The whole number that a number is, if that is one of sixty-four bits. The least of those counts
only where it is no fraction. -/
def wordOf? : Value → Option Int
  | .int n => if isWord n then some n else none
  | .real x => x.toInt?.filter fun n => isWord n && n != -wordBound
  | _ => none

/-- The truth value of zero and one. -/
def boolOfInt? (n : Int) : Option Bool :=
  if n = 0 then some false else if n = 1 then some true else none

/-- A truth value. Zero and one are truth values, and so are some words. -/
def checkBool (place : List Step) (v : Value) : Checked Bool :=
  let orUnclear (b : Option Bool) : Checked Bool := match b with
    | some b => .ok b
    | none => violation place .unclearBool v
  match v with
  | .bool b => .ok b
  | .str s => orUnclear (boolOfText? s)
  | .bytes bs => match decodeStrict bs with
    | .ok cs => orUnclear (boolOfText? (String.ofList cs))
    | .error _ => violation place .unclearBool v
  | .torn t => violation place .noUnicode (.torn t)
  | v => match wordOf? v with
    | some n => orUnclear (boolOfInt? n)
    | none => violation place .noBool v

/-- A method. -/
def checkMethod (place : List Step) (v : Value) : Checked Method :=
  match v with
  | .str s => match Method.ofText? s with
    | some m => .ok m
    | none => violation place .noMethod v
  | .torn t => violation place .noUnicode (.torn t)
  | v => violation place .noMethod v

/-- The step to what a key binds. -/
def keyStep : Value → Step
  | .str s => .field s
  | .int n => if isWord n then .number n else .field (Value.int n).shown
  | .bool b => .number (if b then 1 else 0)
  | v => .field v.shown

/-- A key: a text, which may be torn. -/
def checkKey (place : List Step) (k : Value) : Checked Value :=
  match k with
  | .torn t => .ok (.torn t)
  | k => (checkText place k).map .str

/-- The violations of keys that are no texts. -/
def keyViolations (place : List Step) (entries : List (Value × Value)) : List Violation :=
  entries.flatMap fun (k, _) => match checkKey (place ++ [keyStep k, .field "[key]"]) k with
    | .ok _ => []
    | .error e => e

/-- The mapping of entries whose keys are texts. -/
def textMap (entries : List (Value × Value)) : Value :=
  Yaml.mapOf (entries.filterMap fun (k, v) => (checkKey [] k).toOption.map (·, v))

/-- A map, or nothing. -/
def checkOptionalMap (place : List Step) (v : Value) : Checked (Option Value) :=
  match v.inside with
  | .null => .ok none
  | .map fs => .ok (some (.map fs))
  | .table es => match keyViolations place es with
    | [] => .ok (some (textMap es))
    | vs => .error vs
  | _ => violation place .noMap v

/-- A status: a text or a whole number. -/
def checkStatus (place : List Step) (v : Value) : Checked String :=
  match v with
  | .int n => if isLong n then violation place (.invalid unwritableInt) v else .ok (intText n)
  | v => checkText place v

/-! ### Fields -/

/-- The fields of a mapping whose keys are texts. -/
def fieldsOf? (v : Value) : Option (List (String × Value)) :=
  match v.inside with
  | .map fs => some fs
  | .table es => some (es.filterMap fun
    | (.str k, v) => some (k, v)
    | _ => none)
  | _ => none

/-- A field, or its default. -/
def checkField {α : Type} (place : List Step) (fields : List (String × Value)) (name : String)
    (default : α) (check : List Step → Value → Checked α) : Checked α :=
  match fields.lookup name with
  | none => .ok default
  | some v => check (place ++ [.field name]) v

/-- The source of an error response, of which there must be one. -/
def ErrorSource.ofFields? (schema : Option Value) (text file : Option String) :
    Option ErrorSource :=
  match schema, text, file with
  | some v, none, none => some (.schema v)
  | none, some s, none => some (.text s)
  | none, none, some f => some (.file f)
  | _, _, _ => none

/-- The message about no source or several. -/
def oneSource : String :=
  "Exactly one of error_schema, error_xsd_content or error_xsd_file_path must be provided"

/-- An error response. -/
def ErrorResponse.ofValue (d : Defaults) (place : List Step) (v : Value) : Checked ErrorResponse :=
  match fieldsOf? v with
  | none => violation place (.noModel "ErrorResponseOptions") v
  | some fs =>
    let parts := (Checked.ap (Checked.ap (Checked.ap (Checked.ap (Checked.ap
      ((checkField place fs "error_schema" none checkOptionalMap).map
        fun a b c t s e => (ErrorSource.ofFields? a b c, t, s, e))
      (checkField place fs "error_xsd_content" none checkOptionalText))
      (checkField place fs "error_xsd_file_path" none checkOptionalText))
      (checkField place fs "error_type_name" none checkOptionalText))
      (checkField place fs "error_status_code" d.status checkStatus))
      (checkField place fs "error_description" d.description checkText))
    match parts with
    | .error e => .error e
    | .ok (some source, typeName, status, description) =>
      .ok ⟨source, typeName, status, description⟩
    | .ok (none, _) => violation place (.invalid oneSource) v

/-- An error response or nothing. -/
def checkError (d : Defaults) (place : List Step) (v : Value) : Checked (Option ErrorResponse) :=
  match v with
  | .null => .ok none
  | v => (ErrorResponse.ofValue d place v).map some

/-- The options of an environment where none are given. -/
def Defaults.options (d : Defaults) : Options :=
  ⟨d.requestSuffix, d.responseSuffix, d.nameInPath, d.method, d.contentType, d.defaultType, none⟩

/-- Options. -/
def Options.ofValue (d : Defaults) (place : List Step) (v : Value) : Checked Options :=
  match fieldsOf? v with
  | none => violation place (.noModel "GenerationOptions") v
  | some fs =>
    Checked.ap (Checked.ap (Checked.ap (Checked.ap (Checked.ap (Checked.ap
      ((checkField place fs "request_suffix" d.requestSuffix checkSuffix).map Options.mk)
      (checkField place fs "response_suffix" d.responseSuffix checkSuffix))
      (checkField place fs "use_schema_name_in_path" d.nameInPath checkBool))
      (checkField place fs "http_method" d.method checkMethod))
      (checkField place fs "content_type" d.contentType checkText))
      (checkField place fs "default_type" d.defaultType checkText))
      (checkField place fs "error" none (checkError d))

/-- The source of a schema, of which there must be one. -/
def SchemaSource.ofFields (file text : Option String) : Except String SchemaSource :=
  match file, text with
  | some f, none => .ok (.file f)
  | none, some s => .ok (.text s)
  | none, none => .error "Either input_file_path or xsd_content must be provided"
  | some _, some _ => .error "input_file_path and xsd_content are mutually exclusive"

/-- What a conversion is to do. -/
def Job.ofValue (d : Defaults) (v : Value) : Checked Job :=
  match fieldsOf? v with
  | none => violation [] (.noModel "ConversionConfig") v
  | some fs =>
    let parts := (Checked.ap (Checked.ap (Checked.ap (Checked.ap
      ((checkField [] fs "input_file_path" none checkOptionalText).map
        fun f s o n options => (SchemaSource.ofFields f s, o, n, options))
      (checkField [] fs "xsd_content" none checkOptionalText))
      (checkField [] fs "output_file_path" none checkOptionalText))
      (checkField [] fs "schema_name" none checkOptionalText))
      (checkField [] fs "options" d.options (Options.ofValue d)))
    match parts with
    | .error e => .error e
    | .ok (.ok source, output, name, options) => .ok ⟨source, output, name, options⟩
    | .ok (.error m, _) => violation [] (.invalid m) v

/-! ### As values -/

/-- An error response as a value. -/
def ErrorResponse.toValue (e : ErrorResponse) : Value :=
  let (schema, text, file) := match e.source with
    | .schema v => (v, .null, .null)
    | .text s => (.null, .str s, .null)
    | .file f => (.null, .null, .str f)
  .map [("error_schema", schema), ("error_xsd_content", text), ("error_xsd_file_path", file),
    ("error_type_name", .ofText? e.typeName), ("error_status_code", .str e.status),
    ("error_description", .str e.description)]

/-- Options as a value. -/
def Options.toValue (o : Options) : Value :=
  .map [("request_suffix", .str o.requestSuffix), ("response_suffix", .str o.responseSuffix),
    ("use_schema_name_in_path", .bool o.nameInPath), ("http_method", .str o.method.text),
    ("content_type", .str o.contentType), ("default_type", .str o.defaultType),
    ("error", (o.error.map ErrorResponse.toValue).getD .null)]

/-- A job as a value. -/
def Job.toValue (j : Job) : Value :=
  let (file, text) := match j.source with
    | .file f => (.str f, .null)
    | .text s => (.null, .str s)
  .map [("input_file_path", file), ("xsd_content", text), ("output_file_path", .ofText? j.output),
    ("schema_name", .ofText? j.schemaName), ("options", j.options.toValue)]

end ApiContract
