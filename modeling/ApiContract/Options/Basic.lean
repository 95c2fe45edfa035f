import ApiContract.Value

/-!
Options of a conversion: how elements are paired, what the operations look like, and the response
that every operation gives in case of an error.
-/

namespace ApiContract

/-- The methods that an operation may have. -/
inductive Method where
  | get | post | put | delete | patch
  deriving Repr, DecidableEq

namespace Method

/-- All methods. -/
def all : List Method := [get, post, put, delete, patch]

/-- The name of a method. -/
def text : Method → String
  | get => "get"
  | post => "post"
  | put => "put"
  | delete => "delete"
  | patch => "patch"

/-- The name of a method in capitals. -/
def capitals : Method → String
  | get => "GET"
  | post => "POST"
  | put => "PUT"
  | delete => "DELETE"
  | patch => "PATCH"

/-- The method of a name. -/
def ofText? (s : String) : Option Method := all.find? (·.text == s)

end Method

/-- Where the schema of an error response comes from: it is given as it is, or it is a type of a
schema document that is given as text or as a file. -/
inductive ErrorSource where
  | schema (fields : Value)
  | text (content : String)
  | file (path : String)
  deriving Repr

/-- The response in case of an error. -/
structure ErrorResponse where
  source : ErrorSource
  typeName : Option String
  status : String
  description : String
  deriving Repr

/-- The options of a conversion. -/
structure Options where
  requestSuffix : String
  responseSuffix : String
  nameInPath : Bool
  method : Method
  contentType : String
  defaultType : String
  error : Option ErrorResponse
  deriving Repr

/-- What options are where none are given. -/
structure Defaults where
  requestSuffix : String
  responseSuffix : String
  nameInPath : Bool
  method : Method
  contentType : String
  defaultType : String
  status : String
  description : String
  deriving Repr, DecidableEq

/-- The defaults of an environment that sets none. -/
def Defaults.standard : Defaults where
  requestSuffix := "Req"
  responseSuffix := "Res"
  nameInPath := false
  method := .post
  contentType := "application/json"
  defaultType := "string"
  status := "500"
  description := "Internal server error"

/-- Where a schema comes from. -/
inductive SchemaSource where
  | file (path : String)
  | text (content : String)
  deriving Repr, DecidableEq

/-- What a conversion is to do. -/
structure Job where
  source : SchemaSource
  output : Option String
  schemaName : Option String
  options : Options
  deriving Repr

end ApiContract
