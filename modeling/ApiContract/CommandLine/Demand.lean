import ApiContract.CommandLine.Run

/-!
The files that a run looks at, as far as the ones that are known tell: the options file, the schema,
the schema of the error response, and what the schema imports.
-/

namespace ApiContract.CommandLine

open ApiContract.Files ApiContract.Schema

/-- The file that declares an error response. -/
def errorFile? (o : Options) : Option String :=
  match o.error with
  | some ⟨.file path, _, _, _⟩ => some path
  | _ => none

/-- The files that a document in a file imports. -/
def importedFiles (d : Document) (file : String) : List String :=
  (pendingImports d.imports file d.importLabels).map (·.path.text)

/-- The files that a schema in a file imports, if that file is known. -/
def importsOf (t : Tree) (file : String) : List String :=
  match (Convert.fileContent t (Path.ofText file) .missingInput).result with
  | .ok c => match Document.read c (some file) with
    | .ok d => importedFiles d file
    | .error _ => []
  | .error _ => []

/-- The files that a job looks at. -/
def jobFiles (t : Tree) (j : Job) : List String :=
  (errorFile? j.options).toList ++
    match Convert.sourceFile j.source with
    | some file => file :: importsOf t file
    | none => []

/-- The files that a run looks at. -/
def demand (t : Tree) (d : Defaults) (args : List String) : List String :=
  match Arguments.ofList args with
  | .error _ => []
  | .ok a =>
    (fullText? (a.value? .config)).toList ++
      match a.job t d with
      | .ok j => jobFiles t j
      | .error _ => []

end ApiContract.CommandLine
