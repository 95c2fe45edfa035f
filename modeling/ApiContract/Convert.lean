import ApiContract.Contract.Document
import ApiContract.Convert.Failure
import ApiContract.Convert.Host
import ApiContract.Log
import ApiContract.Yaml.Writer

/-!
Conversion of a schema to an interface description. The schema is read from a file or from text, the
schema of the error response is made if there is one, imports are resolved beside the input file,
and the outcome is written to a file if one is named. No file is opened before all that is done, but
what is in the file is gone once it is open, even if writing fails then. Where data is nested, there must
be room to follow it.
-/

namespace ApiContract.Convert

open ApiContract.Text ApiContract.Files ApiContract.Schema

/-! ### Names and texts -/

/-- The name of a schema that is in no file. -/
def defaultName : String := "schema"

/-- The name of a schema: the given one, or else that of its file without the suffix, in small
letters. -/
def schemaName (given inputFile : Option String) : String :=
  match given.filter (!·.isEmpty), inputFile.filter (!·.isEmpty) with
  | some n, _ => lower n
  | none, some f => lower (Path.ofText f).stem
  | none, none => defaultName

/-- Whether a file holds YAML, by the suffix of its name. -/
def isYaml (p : Path) : Bool := [".yaml", ".yml"].contains (lower p.suffix)

/-- An interface description as the text of a file. -/
def render (p : Path) (document : Value) : Except Json.Obstacle String :=
  if isYaml p then Yaml.write document else Json.pretty document

/-! ### Steps -/

/-- A step of a conversion. -/
abbrev Step (α : Type) := Logged Failure α

/-- A message that something is done. -/
def inform (message : String) : Step Unit := .write [⟨.info, message⟩]

/-- Messages about details. -/
def explain (messages : List String) : Step Unit := .write (LogEntry.all .debug messages)

/-- Follows nested data, for which there must be room. -/
def follow (s : Stack) (xs : List Descent) : Step Unit :=
  if xs.all s.fits then pure () else .fail .exhausted

/-- What is followed when content is read: the declarations under its root, if there is one. -/
def readings (c : Content) : List Descent := (readRoot c none).toOption.toList.map .reading

/-- A document from its content. -/
def readDocument (s : Stack) (c : Content) (source : Option String) : Step Schema.Document := do
  follow s (readings c)
  ⟨LogEntry.all .debug (readNotes c source), (Document.read c source).mapError .unreadable⟩

/-- The content of the file at a path, which must be there. -/
def fileContent (t : Tree) (p : Path) (missing : String → Failure) : Step Content :=
  match t.file? p with
  | .ok (some bs) => pure (.bytes bs)
  | .ok none => .fail (missing p.text)
  | .error e => .fail (.file e)

/-- The document that a job is about. -/
def readInput (s : Stack) (t : Tree) : SchemaSource → Step Schema.Document
  | .file f => do
    let p := Path.ofText f
    let c ← fileContent t p .missingInput
    inform ("Converting XSD file " ++ p.text)
    readDocument s c (some p.text)
  | .text text => do
    inform "Converting inline XSD content"
    readDocument s (.text text) none

/-- The failure to read the document of an error response. -/
def errorReadFailure : Failure → Failure
  | .unreadable e => if isSchemaError e then .errorSchema (.unreadable e) else .unreadable e
  | f => f

/-- The document that declares an error response. -/
def readErrorDocument (s : Stack) (c : Step Content) (source : Option String) : Step Schema.Document :=
  let step := do readDocument s (← c) source
  ⟨step.log, step.result.mapError errorReadFailure⟩

/-- The type of an error response: the one that is named, or else the first one. -/
def errorType (d : Schema.Document) (name : Option String) : Except Failure ComplexType :=
  match name.filter (!·.isEmpty) with
  | some n => match d.findType? n with
    | some t => .ok t
    | none => .error (.errorSchema (.noType n))
  | none => match d.types with
    | t :: _ => .ok t
    | [] => .error (.errorSchema .noTypes)

/-- The schema of an error response that a document declares. -/
def declaredErrorSchema (s : Stack) (d : Schema.Document) (name : Option String)
    (defaultType : String) : Step Value := do
  let t ← .ofExcept (errorType d name)
  explain ["Using complex type '" ++ t.name ++ "' as error response schema"]
  follow s [.expanding (expand [] d [] t.name)]
  explain (expansionNotes defaultType (expand [] d [] t.name))
  pure (typeSchema [] d [] defaultType t.name).toValue

/-- The schema of an error response. -/
def errorSchema (s : Stack) (t : Tree) (e : ErrorResponse) (defaultType : String) : Step Value :=
  match e.source with
  | .schema v => pure v
  | .text text => do
    let d ← readErrorDocument s (pure (.text text)) none
    declaredErrorSchema s d e.typeName defaultType
  | .file f => do
    let p := Path.ofText f
    let d ← readErrorDocument s (fileContent t p (.errorSchema ∘ .missing)) (some p.text)
    declaredErrorSchema s d e.typeName defaultType

/-- The schema of the error response that options ask for. -/
def optionalErrorSchema (s : Stack) (t : Tree) (o : Options) : Step (Option Value) :=
  match o.error with
  | some e => do pure (some (← errorSchema s t e o.defaultType))
  | none => pure none

/-- The documents that the root document imports. -/
def readImports (t : Tree) (imports : List Import) (rootFile : Option String)
    (labels : List (String × String)) : Step Imports :=
  let result := (resolveImports t imports rootFile labels).mapError Failure.ofImports
  match rootFile.filter (!·.isEmpty) with
  | none => .ofExcept result
  | some root => do
    explain (skippedNotes imports labels)
    let pending := pendingImports imports root labels
    if pending.isEmpty then .ofExcept result
    else do
      inform (resolvingNote pending root)
      match importContents t pending with
      | .ok contents =>
        explain (contents.flatMap fun c => readNotes (.bytes c.2) (some c.1.path.text))
      | .error _ => pure ()
      let documents ← .ofExcept result
      explain (rebindingNotes [] pending)
      pure documents

/-- The interface description of a document. -/
def describe (t : Tree) (d : Schema.Document) (name : String) (rootFile : Option String)
    (o : Options) (errorSchema : Option Value) : Step Value := do
  let imports ← readImports t d.imports rootFile d.importLabels
  explain (Contract.documentNotes imports d o)
  inform ("Generated " ++ Nat.repr (Contract.paths imports d name o errorSchema).length ++
    " paths for schema '" ++ name ++ "'")
  pure (Contract.document imports d name o errorSchema)

/-- The file that a schema is in. -/
def sourceFile : SchemaSource → Option String
  | .file f => some f
  | .text _ => none

/-- What is followed when the documents are read that the root document imports. -/
def importReadings (t : Tree) (d : Schema.Document) (rootFile : Option String) : List Descent :=
  match rootFile.filter (!·.isEmpty) with
  | none => []
  | some root => match importContents t (pendingImports d.imports root d.importLabels) with
    | .ok contents => contents.flatMap fun c => readings (.bytes c.2)
    | .error _ => []

/-- What is followed for an operation: the types of its elements, and the schema of the error response,
of which it has a copy. -/
def operationDescents (imports : Imports) (d : Schema.Document) (errorSchema : Option Value)
    (g : Contract.Group ElementDecl) : List Descent :=
  (g.request.toList ++ g.response.toList).map (fun e => .expanding (expandElement imports d [] e)) ++
    errorSchema.toList.map .copying

/-- What is followed for the interface description of a document whose imports resolve. -/
def descriptionDescents (t : Tree) (d : Schema.Document) (rootFile : Option String) (o : Options)
    (errorSchema : Option Value) : List Descent :=
  match resolveImports t d.imports rootFile d.importLabels with
  | .ok imports => importReadings t d rootFile ++
      (Contract.groups d o).flatMap (operationDescents imports d errorSchema)
  | .error _ => []

/-- The interface description that a job asks for. -/
def convert (s : Stack) (t : Tree) (j : Job) : Step Value := do
  let d ← readInput s t j.source
  let file := sourceFile j.source
  let e ← optionalErrorSchema s t j.options
  follow s (descriptionDescents t d file j.options e)
  describe t d (schemaName j.schemaName file) file j.options e

/-- What a job comes to: the interface description or a failure, with the messages on the way, and the
files afterwards. -/
structure Outcome where
  step : Step Value
  tree : Tree

/-- The outcome after a file is opened: so many bytes arrive in it, and this comes of it. -/
def fill (t : Tree) (p : Path) (arrived : List UInt8) (step : Step Value) : Outcome :=
  match t.target p with
  | .error e => ⟨.fail (.file e), t⟩
  | .ok place => ⟨step, t.setFile place arrived⟩

/-- The outcome after the text of an interface description is made, or not. It is written to a file, as
far as there is room on the disk. A torn text has letters, but none of them arrives. -/
def save (disk : Option FullDisk) (t : Tree) (p : Path) (document : Value) : Outcome :=
  match render p document with
  | .ok text =>
    let bs := encode text.toList
    match disk with
    | none => fill t p bs do
      inform ("Wrote OpenAPI document to " ++ p.text)
      pure document
    | some d => fill t p (bs.take d.arrived) (.fail (.brokenOff d.message))
  | .error .torn => match Json.letters (some 0) document with
    | .ok ls => fill t p [] (.fail (.unencodable ls))
    | .error o => ⟨.fail (.unwritable o), t⟩
  | .error o => ⟨.fail (.unwritable o), t⟩

/-- The outcome after an interface description is made: it is written to a file. -/
def store (h : Host) (t : Tree) (file : String) (document : Value) : Outcome :=
  let p := Path.ofText file
  match t.prepare p with
  | (t, .error e) => ⟨.fail (.file e), t⟩
  | (t, .ok _) =>
    if h.stack.fits (.rendering (isYaml p) document) then save h.disk t p document
    else ⟨.fail .exhausted, t⟩

/-- The outcome of a job. -/
def run (h : Host) (t : Tree) (j : Job) : Outcome :=
  let made := convert h.stack t j
  match made.result, j.output.filter (!·.isEmpty) with
  | .ok document, some file =>
    let o := store h t file document
    ⟨⟨made.log ++ o.step.log, o.step.result⟩, o.tree⟩
  | _, _ => ⟨made, t⟩

end ApiContract.Convert
