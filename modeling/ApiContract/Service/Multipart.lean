import ApiContract.Service.Form
import ApiContract.Service.Upload

/-!
Parts of a request: texts and files under names. The fields of a form must be of the right kind;
empty texts count as absent. Names of files travel between quotes, where a quote and control
characters are written as numbers.
-/

namespace ApiContract.Service

open ApiContract.Text

/-- A part: a text or a file. -/
inductive Part where
  | text (s : String)
  | file (u : Upload)
  deriving Repr

/-- A hexadecimal digit in capitals. -/
def capitalHexDigit (n : Nat) : Char := if n < 10 then Char.ofNat (48 + n) else Char.ofNat (55 + n)

/-- A character of the name of a file on its way. Escape is the one control character that stays. -/
def travelChar (c : Char) : List Char :=
  if c = '"' ∨ (c.toNat < 0x20 ∧ c.toNat ≠ 0x1b) then
    ['%', capitalHexDigit (c.toNat / 16), capitalHexDigit (c.toNat % 16)]
  else [c]

/-- Whether a name is a path of a system that parts its paths by backslashes. -/
def isBackslashPath : List Char → Bool
  | '\\' :: '\\' :: _ => true
  | _ :: ':' :: '\\' :: _ => true
  | _ => false

/-- The name that a file has at its arrival. -/
def arrivedName (name : String) : String :=
  let cs := name.toList.flatMap travelChar
  String.ofList (if isBackslashPath cs then (cs.reverse.takeWhile (· ≠ '\\')).reverse else cs)

/-- A file as it arrives. Without a name it is a text. -/
def Part.ofUpload (u : Upload) : Part :=
  match u.name.filter (!·.isEmpty) with
  | some n => .file ⟨some (arrivedName n), u.content⟩
  | none => .text (String.ofList (decodeLenient u.content))

/-! ### Bodies -/

/-- How the parts of a request are written in its body. -/
inductive Writing where
  | nothing | line | pieces
  deriving Repr, DecidableEq

/-- What the body of a request is said to be. -/
inductive BodyKind where
  | line
  | pieces (hasBoundary : Bool)
  | other
  deriving Repr, DecidableEq

/-- The kind that is said by default. -/
def Writing.kind : Writing → BodyKind
  | nothing => .other
  | line => .line
  | pieces => .pieces true

/-- The pieces of a header between semicolons, without blanks around them. -/
def headerPieces (value : String) : List String :=
  (Files.splitAt ';' value.toList).map fun cs => String.ofList (trim isBlank cs)

/-- Whether a piece of a header tells the boundary of parts. -/
def isBoundary (piece : String) : Bool := "boundary=".toList.isPrefixOf (lower piece).toList

/-- The kind that a header says. Letter case counts only where there is more than the kind. -/
def BodyKind.ofHeader (value : String) : BodyKind :=
  let (name, more) := match headerPieces value with
    | [n] => (lower n, [])
    | n :: more => (n, more)
    | [] => ("", [])
  if name = "multipart/form-data" then .pieces (more.any isBoundary)
  else if name = "application/x-www-form-urlencoded" then .line
  else .other

/-- What is wrong with a body. -/
inductive BodyFault where
  | noBoundary
  | malformed
  | manyFields
  | manyFiles
  | longField
  deriving Repr, DecidableEq

/-- The most fields and the most files that a body may have. -/
def partLimit : Nat := 1000

/-- The longest field, in bytes. -/
def fieldLimit : Nat := 1024 * 1024

/-- The fault in words. -/
def BodyFault.message : BodyFault → String
  | noBoundary => "Missing boundary in multipart."
  | malformed => "There was an error parsing the body"
  | manyFields => "Too many fields. Maximum number of fields is " ++ Nat.repr partLimit ++ "."
  | manyFiles => "Too many files. Maximum number of files is " ++ Nat.repr partLimit ++ "."
  | longField => "Part exceeded maximum size of " ++ Nat.repr (fieldLimit / 1024) ++ "KB."

/-- Parts as they are found one after the other, after so many fields and files. -/
def checkPieces (fields files : Nat) : List (String × Part) → Except BodyFault Unit
  | [] => .ok ()
  | (_, .text s) :: ps =>
    if partLimit ≤ fields then .error .manyFields
    else if fieldLimit < s.utf8ByteSize then .error .longField
    else checkPieces (fields + 1) files ps
  | (_, .file _) :: ps =>
    if partLimit ≤ files then .error .manyFiles else checkPieces fields (files + 1) ps

/-- The parts that are found in a body. A body that is said to be something else than it is has
none. -/
def arrivedParts (w : Writing) (kind : BodyKind) (parts : List (String × Part)) :
    Except BodyFault (List (String × Part)) :=
  match kind, w with
  | .pieces false, _ => .error .noBoundary
  | .pieces true, .pieces => (checkPieces 0 0 parts).map fun _ => parts
  | .pieces true, .line => .error .malformed
  | .line, .line => .ok parts
  | _, _ => .ok []

/-! ### Fields -/

/-- What is wrong with a field of a form. -/
inductive FieldFault where
  | missing
  | noFile (text : String)
  | unclear (text : String)
  deriving Repr, DecidableEq

namespace FieldFault

/-- The code of a fault. -/
def code : FieldFault → String
  | missing => "missing"
  | noFile _ => "value_error"
  | unclear _ => Problem.unclearBool.code

/-- The fault in words. -/
def message : FieldFault → String
  | missing => "Field required"
  | noFile _ => "Value error, Expected UploadFile, received: <class 'str'>"
  | unclear _ => Problem.unclearBool.message

/-- What was given. -/
def input : FieldFault → Value
  | missing => .null
  | noFile s | unclear s => .str s

/-- More about a fault. -/
def context : FieldFault → List (String × Value)
  | noFile _ => [("ctx", .map [("error", .map [])])]
  | _ => []

/-- The fault of a field as a value. -/
def toValue (field : String) (f : FieldFault) : Value :=
  .map ([("type", .str f.code), ("loc", .list [.str "body", .str field]),
    ("msg", .str f.message), ("input", f.input)] ++ f.context)

end FieldFault

/-- The parts of a request by their names. -/
abbrev Parts := List (String × Part)

namespace Parts

/-- A part; the empty text counts as absent. Of several parts with one name the last one counts. -/
def find? (ps : Parts) (name : String) : Option Part :=
  match ps.reverse.lookup name with
  | some (.text s) => if s.isEmpty then none else some (.text s)
  | p => p

/-- The text of a part. -/
def text? (ps : Parts) (name : String) : Option String :=
  match ps.find? name with
  | some (.text s) => some s
  | _ => none

/-- A file that need not be there. -/
def upload? (ps : Parts) (name : String) : Except FieldFault (Option Upload) :=
  match ps.find? name with
  | some (.file u) => .ok (some u)
  | some (.text s) => .error (.noFile s)
  | none => .ok none

/-- A file that must be there. -/
def upload (ps : Parts) (name : String) : Except FieldFault Upload :=
  match ps.upload? name with
  | .ok (some u) => .ok u
  | .ok none => .error .missing
  | .error f => .error f

/-- A truth value that need not be there. -/
def bool? (ps : Parts) (name : String) : Except FieldFault (Option Bool) :=
  match ps.text? name with
  | none => .ok none
  | some s => match boolOfText? s with
    | some b => .ok (some b)
    | none => .error (.unclear s)

/-- The fault of a field, if it has one. -/
def faultOf {α : Type} (field : String) (r : Except FieldFault α) : List (String × FieldFault) :=
  match r with
  | .ok _ => []
  | .error f => [(field, f)]

end Parts

/-- A request for a conversion: the schema, its name and the options. -/
structure Submission where
  file : Upload
  schemaName : Option String
  form : Form
  deriving Repr

/-- The request that parts make, or what is wrong with their fields. -/
def Submission.ofParts (ps : Parts) : Except (List (String × FieldFault)) Submission :=
  let file := ps.upload "file"
  let inPath := ps.bool? "use_schema_name_in_path"
  let errorFile := ps.upload? "error_file"
  match file, inPath, errorFile with
  | .ok file, .ok inPath, .ok errorFile =>
    let texts := ["request_suffix", "response_suffix", "http_method", "content_type", "default_type",
      "error_type_name", "error_status_code", "error_description"]
    let fields := texts.filterMap fun n => (ps.text? n).map fun s => (n, Value.str s)
    let flags := (inPath.map fun b => ("use_schema_name_in_path", Value.bool b)).toList
    .ok ⟨file, ps.text? "schema_name", ⟨fields ++ flags, errorFile.map (·.content)⟩⟩
  | _, _, _ => .error (Parts.faultOf "file" file ++ Parts.faultOf "use_schema_name_in_path" inPath ++
      Parts.faultOf "error_file" errorFile)

end ApiContract.Service
