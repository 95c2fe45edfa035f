import ApiContract.Schema.Imports
import ApiContract.Value.Torn

/-!
Why a conversion fails: the input, an imported document or the schema of the error response cannot
be read, there is no room for all the calls, or the outcome cannot be written. A text that is torn has no
bytes, and a disk may be full; both are only found once a file is open.
-/

namespace ApiContract.Convert

open ApiContract.Schema ApiContract.Text

/-- Why the schema of an error response cannot be made. -/
inductive ErrorSchemaFailure where
  | unreadable (e : ReadError)
  | missing (path : String)
  | noType (name : String)
  | noTypes
  deriving Repr, DecidableEq

/-- The failure in words. -/
def ErrorSchemaFailure.message : ErrorSchemaFailure → String
  | unreadable e => "Failed to load error schema: " ++ e.message
  | missing p => "Failed to load error schema: Error schema file not found: " ++ p
  | noType n => "Error schema has no complex type named '" ++ n ++ "'"
  | noTypes => "Error schema does not declare any complex type"

/-- Why a conversion fails. -/
inductive Failure where
  | unreadable (e : ReadError)
  | missingInput (path : String)
  | missingImport (path : String)
  | errorSchema (e : ErrorSchemaFailure)
  | file (e : Files.FileError)
  | exhausted
  | unwritable (o : Json.Obstacle)
  | unencodable (text : List Letter)
  | brokenOff (message : String)
  deriving Repr, DecidableEq

/-- The failure in words. -/
def Failure.message : Failure → String
  | unreadable e => e.message
  | missingInput p => "Input file not found: " ++ p
  | missingImport p => "Imported schema file not found: " ++ p
  | errorSchema e => e.message
  | file e => e.message
  | exhausted => "maximum recursion depth exceeded"
  | unwritable o => o.message
  | unencodable ls => match wholeText ls with
    | .ok _ => ""
    | .error t => t.message
  | brokenOff m => m

/-- Whether a failure is found when a file is open already. -/
def Failure.isLate : Failure → Bool
  | unencodable _ | brokenOff _ => true
  | _ => false

/-- The failure of imports as the failure of a conversion. -/
def Failure.ofImports : ImportError → Failure
  | .missing p => missingImport p
  | .file e => file e
  | .unreadable e => unreadable e

/-- Whether a document cannot be read because of what it says; otherwise its encoding
cannot be read. -/
def isSchemaError : ReadError → Bool
  | .xml _ (.encoding _) => false
  | _ => true

end ApiContract.Convert
