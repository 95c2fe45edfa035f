import ApiContract.Contract.Operation
import ApiContract.Value.Sharing

/-!
The interface description of a schema document: one path for each pair of elements, with one
operation.
-/

namespace ApiContract.Contract

open ApiContract.Schema

/-- The pairs of a document. -/
def groups (d : Document) (o : Options) : List (Group ElementDecl) :=
  group o.requestSuffix o.responseSuffix (·.name) d.elements

/-- The paths of a document with what is there. Every operation has a copy of the schema of the error
response. -/
def paths (imports : Imports) (d : Document) (schemaName : String) (o : Options)
    (errorSchema : Option Value) : List (String × Value) :=
  fieldsOf ((groups d o).zipIdx.map fun (g, i) =>
    let p := path schemaName o.nameInPath g.name
    (p, .map [(o.method.text, operation imports d o p g (errorSchema.map (Value.copied i)))]))

/-- The interface description of a schema document. -/
def document (imports : Imports) (d : Document) (schemaName : String) (o : Options)
    (errorSchema : Option Value) : Value :=
  .map [("openapi", .str "3.1.0"),
    ("info", .map [("title", .str schemaName),
      ("description", .str ("OpenAPI specification generated from XSD schema " ++ schemaName)),
      ("version", .str "1.0.0")]),
    ("paths", .map (paths imports d schemaName o errorSchema))]

/-- The notes about elements that are in no pair. -/
def groupNotes (d : Document) (o : Options) : List String :=
  (ungrouped o.requestSuffix o.responseSuffix (·.name) d.elements).map fun e =>
    "Element '" ++ e.name ++ "' matches neither request nor response suffix, skipping"

/-- The notes about the operations of a document. -/
def documentNotes (imports : Imports) (d : Document) (o : Options) : List String :=
  groupNotes d o ++ (groups d o).flatMap (operationNotes imports d o)

end ApiContract.Contract
