import ApiContract.Convert.Failure

/-!
Why the service refuses a request, with the status and the words of the answer.
-/

namespace ApiContract.Service

open ApiContract.Number

/-- Why a request is refused. -/
inductive Refusal where
  | noToken
  | wrongToken
  | badOptions (message : String)
  | emptyFile (name : Option String)
  | largeFile (limit : Int)
  | undecodableFile (name : Option String)
  | lateAnswer (seconds : Int)
  | badErrorSchema (e : Convert.ErrorSchemaFailure)
  | badSchema (f : Convert.Failure)
  | unexpected (f : Convert.Failure)
  deriving Repr

namespace Refusal

/-- The status of the answer. -/
def status : Refusal → Nat
  | noToken | wrongToken => 401
  | badOptions _ => 422
  | emptyFile _ | undecodableFile _ | badErrorSchema _ | badSchema _ => 400
  | largeFile _ => 413
  | lateAnswer _ => 504
  | unexpected _ => 500

/-- The name of a file between quotes. -/
def fileText (name : Option String) : String := "'" ++ name.getD "None" ++ "'"

/-- The refusal in words. -/
def detail : Refusal → String
  | noToken => "Not authenticated"
  | wrongToken => "Invalid authentication token"
  | badOptions m => "Invalid generation options: " ++ m
  | emptyFile n => "Uploaded file " ++ fileText n ++ " is empty"
  | largeFile n => "Uploaded file exceeds maximum size of " ++ intText n ++ " bytes"
  | undecodableFile n => "Uploaded file " ++ fileText n ++ " is not UTF-8 encoded"
  | lateAnswer n => "Conversion exceeded " ++ intText n ++ " seconds"
  | badErrorSchema e => "Invalid error schema: " ++ e.message
  | badSchema f => f.message
  | unexpected f => "Unexpected error during conversion: " ++ f.message

/-- The header that tells how to authenticate. -/
def challenge : String × String := ("WWW-Authenticate", "Bearer")

/-- The headers of the answer. -/
def headers : Refusal → List (String × String)
  | noToken | wrongToken => [challenge]
  | _ => []

/-- The refusal after a failure to convert. -/
def ofFailure : Convert.Failure → Refusal
  | .errorSchema e => badErrorSchema e
  | .unreadable e => if Convert.isSchemaError e then badSchema (.unreadable e) else unexpected (.unreadable e)
  | .missingInput p => badSchema (.missingInput p)
  | .missingImport p => badSchema (.missingImport p)
  | f => unexpected f

end Refusal

end ApiContract.Service
