import ApiContract.Files.Tree
import ApiContract.Schema.Reader

/-!
Imported documents. An import is followed if the root document has a label for its namespace; its
file is looked for beside the file of the root. All files must be there before any of them is read,
and of several documents with one label the last one counts.
-/

namespace ApiContract.Schema

open ApiContract.Files

/-- The end of the names of schema files. -/
def fileSuffix : String := ".xsd"

/-- The path of an imported file, seen from the file of the root. -/
def importPath (location rootFile : String) : Path :=
  let name := if fileSuffix.toList.isSuffixOf location.toList then location
    else location ++ fileSuffix
  (Path.ofText rootFile).parent.join (Path.ofText name)

/-- An import that is followed. -/
structure PendingImport where
  label : String
  path : Path
  deriving Repr, DecidableEq

/-- The label for the namespace of an import. -/
def Import.label? (labels : List (String × String)) (i : Import) : Option String :=
  (labels.lookup i.space).filter (!·.isEmpty)

/-- The imports that are followed. -/
def pendingImports (imports : List Import) (rootFile : String) (labels : List (String × String)) :
    List PendingImport :=
  imports.filterMap fun i =>
    (i.label? labels).map fun l => ⟨l, importPath i.location rootFile⟩

/-- Why imports cannot be followed. -/
inductive ImportError where
  | missing (path : String)
  | file (e : FileError)
  | unreadable (e : ReadError)
  deriving Repr, DecidableEq

/-- The content of the file of an import. -/
def PendingImport.content (t : Tree) (p : PendingImport) : Except ImportError (List UInt8) :=
  match t.file? p.path with
  | .ok (some bs) => .ok bs
  | .ok none => .error (.missing p.path.text)
  | .error e => .error (.file e)

/-- The contents of the files of imports. -/
def importContents (t : Tree) (pending : List PendingImport) :
    Except ImportError (List (PendingImport × List UInt8)) :=
  pending.mapM fun p => (p.content t).map (p, ·)

/-- The document that the file of an import holds. -/
def importedDocument (p : PendingImport × List UInt8) : Except ImportError (String × Document) :=
  match Document.read (.bytes p.2) (some p.1.path.text) with
  | .ok d => .ok (p.1.label, d)
  | .error e => .error (.unreadable e)

/-- The imported documents by their labels. Nothing is imported into a document that is in no
file. -/
def resolveImports (t : Tree) (imports : List Import) (rootFile : Option String)
    (labels : List (String × String)) : Except ImportError (List (String × Document)) :=
  match rootFile with
  | none => .ok []
  | some root =>
    if root.isEmpty then .ok []
    else do
      let contents ← importContents t (pendingImports imports root labels)
      let documents ← contents.mapM importedDocument
      pure (fieldsOf documents)

/-! ### Notes -/

/-- The notes about imports that are not followed. -/
def skippedNotes (imports : List Import) (labels : List (String × String)) : List String :=
  (imports.filter fun i => (i.label? labels).isNone).map fun i =>
    "Skipping import of namespace '" ++ i.space ++ "': no prefix declared for it"

/-- The notes about labels that have more than one document, where some labels were seen. -/
def rebindingNotes (seen : List String) : List PendingImport → List String
  | [] => []
  | p :: ps =>
    let rest := rebindingNotes (p.label :: seen) ps
    if seen.contains p.label then
      ("Prefix '" ++ p.label ++ "' is bound to more than one import, using " ++ p.path.text) :: rest
    else rest

/-- The note about the imports that are followed. -/
def resolvingNote (pending : List PendingImport) (rootFile : String) : String :=
  "Resolving " ++ Nat.repr pending.length ++ " schema imports for " ++ rootFile

end ApiContract.Schema
