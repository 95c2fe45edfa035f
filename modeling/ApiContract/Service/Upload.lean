import ApiContract.Convert
import ApiContract.Environment
import ApiContract.Service.Refusal

/-!
Conversion of an uploaded schema. The file must not be empty, not be too large and be text in UTF-8;
no file is written.
-/

namespace ApiContract.Service

open ApiContract.Text ApiContract.Files

/-- An uploaded file. -/
structure Upload where
  name : Option String
  content : List UInt8
  deriving Repr

/-- The text of an uploaded file. -/
def Upload.text (u : Upload) (limit : Int) : Except Refusal String :=
  if u.content.isEmpty then .error (.emptyFile u.name)
  else if limit < u.content.length then .error (.largeFile limit)
  else match decodeStrict u.content with
    | .ok cs => .ok (String.ofList cs)
    | .error _ => .error (.undecodableFile u.name)

/-- The name of the schema in an uploaded file: the given one, or else that of the file without the
suffix. -/
def Upload.schemaName (u : Upload) (given : Option String) : Option String :=
  match given.filter (!·.isEmpty), u.name.filter (!·.isEmpty) with
  | none, some n => some (Path.ofText n).stem
  | _, _ => given

/-- The answer to a conversion. -/
structure Answer where
  filename : Option String
  schemaName : String
  pathCount : Nat
  document : Value
  deriving Repr

/-- The answer as a value. -/
def Answer.toValue (a : Answer) : Value :=
  .map [("filename", .ofText? a.filename), ("schema_name", .str a.schemaName),
    ("path_count", .int a.pathCount), ("document", a.document)]

/-- The answer that tells of an interface description. -/
def Answer.ofDocument (filename : Option String) (document : Value) : Answer where
  filename := filename
  schemaName := match (document.field? "info").bind (·.field? "title") with
    | some (.str s) => s
    | _ => ""
  pathCount := match document.field? "paths" with
    | some (.map ps) => ps.length
    | _ => 0
  document := document

/-- The answer to an upload. A limit of no time is always exceeded. -/
def Upload.answer (u : Upload) (stack : Convert.Stack) (tree : Tree) (options : Options)
    (given : Option String) (config : ServiceConfig) : Except Refusal Answer := do
  let text ← u.text config.uploadLimit
  if config.timeout ≤ 0 then .error (.lateAnswer config.timeout)
  else
    match (Convert.convert stack tree ⟨.text text, none, u.schemaName given, options⟩).result with
    | .ok document => .ok (.ofDocument u.name document)
    | .error f => .error (.ofFailure f)

end ApiContract.Service
