import ApiContract.Contract.Grouping
import ApiContract.Options.Basic
import ApiContract.Schema.Node

/-!
Operations: a request and a response element become the request body and the response of an
operation, with the schemas of their types. An error response is one more response.
-/

namespace ApiContract.Contract

open ApiContract.Schema

/-- The path of an operation. -/
def path (schemaName : String) (nameInPath : Bool) (name : String) : String :=
  if nameInPath then "/" ++ schemaName ++ "/" ++ name else "/" ++ name

/-- A schema as the content of a body. -/
def body (contentType : String) (schema : Value) : Value :=
  .map [(contentType, .map [("schema", schema)])]

/-- The status of a response without errors. -/
def successStatus : String := "200"

/-- The description of an operation: that of the request, or else that of the response. -/
def description? (g : Group ElementDecl) : Option String :=
  let d := (g.request.bind (·.documentation)).or (g.response.bind (·.documentation))
  d.filter (!·.isEmpty)

/-- The schema of the type of an element, as a value. -/
def elementValue (imports : Imports) (d : Document) (o : Options) (e : ElementDecl) : Value :=
  (elementSchema imports d [] o.defaultType e).toValue

/-- The body of a request. -/
def requestBody (imports : Imports) (d : Document) (o : Options) (e : ElementDecl) : Value :=
  .map [("required", .bool (e.minOccurs != some "0")),
    ("content", body o.contentType (elementValue imports d o e))]

/-- The response without errors. -/
def successResponse (imports : Imports) (d : Document) (o : Options) (e : ElementDecl) : Value :=
  .map [("description", .str "OK"), ("content", body o.contentType (elementValue imports d o e))]

/-- The responses of an operation by their statuses. -/
def responses (imports : Imports) (d : Document) (o : Options) (g : Group ElementDecl)
    (errorSchema : Option Value) : List (String × Value) :=
  let ok := (g.response.map fun e => (successStatus, successResponse imports d o e)).toList
  match errorSchema, o.error with
  | some s, some e =>
    putField e.status (.map [("description", .str e.description), ("content", body o.contentType s)])
      ok
  | _, _ => ok

/-- An operation. -/
def operation (imports : Imports) (d : Document) (o : Options) (path : String)
    (g : Group ElementDecl) (errorSchema : Option Value) : Value :=
  .map ([("operationId", .str g.name), ("summary", .str (o.method.capitals ++ " " ++ path))] ++
    ((description? g).map fun s => ("description", Value.str s)).toList ++
    (g.request.map fun e => ("requestBody", requestBody imports d o e)).toList ++
    [("responses", .map (responses imports d o g errorSchema))])

/-- The notes about the schemas of an operation. -/
def operationNotes (imports : Imports) (d : Document) (o : Options) (g : Group ElementDecl) :
    List String :=
  (g.request.toList ++ g.response.toList).flatMap (elementNotesOf imports d o.defaultType)

end ApiContract.Contract
