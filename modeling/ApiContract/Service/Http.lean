import ApiContract.Service.Multipart
import ApiContract.Service.Origin
import ApiContract.Service.Target
import ApiContract.Service.Token

/-!
Requests to the service and its responses. There is a place to ask whether the service is well, one to
convert a schema, and some that describe the service. A body must be readable; then a token is asked
for before anything else is looked at. Every response tells the version of the service.
-/

namespace ApiContract.Service

open ApiContract.Text ApiContract.Files

/-- A request. Its path is the one that its target leads to. -/
structure Request where
  method : String
  path : List Char
  headers : List (String × String)
  writing : Writing
  parts : Parts
  deriving Repr

/-- A response. -/
structure Response where
  status : Nat
  headers : List (String × String)
  body : String
  deriving Repr

/-- The value of a header, whose name may be in any letter case. -/
def Request.header? (r : Request) (name : String) : Option String :=
  (r.headers.find? fun h => lower h.1 == lower name).map (·.2)

/-- The parts in the body of a request. -/
def Request.arrived (r : Request) : Except BodyFault Parts :=
  arrivedParts r.writing (((r.header? "Content-Type").map BodyKind.ofHeader).getD r.writing.kind) r.parts

/-- A response with a value in its body. -/
def Response.ofValue (status : Nat) (headers : List (String × String)) (v : Value) : Response :=
  ⟨status, headers ++ [("Content-Type", "application/json")], Json.compact v⟩

/-- A response with a text in its body. -/
def Response.ofText (status : Nat) (headers : List (String × String)) (text : String) : Response :=
  ⟨status, headers ++ [("Content-Type", "text/plain; charset=utf-8")], text⟩

/-- A response that tells what is wrong. -/
def Response.ofDetail (status : Nat) (headers : List (String × String)) (detail : Value) : Response :=
  .ofValue status headers (.map [("detail", detail)])

/-- The response to a request that is refused. -/
def Refusal.response (r : Refusal) : Response := .ofDetail r.status r.headers (.str r.detail)

/-! ### Places -/

/-- The places of the service. Four of them describe the service: for programs, and on pages. -/
inductive Route where
  | description | page | grantPage | otherPage | health | convert
  deriving Repr, DecidableEq

namespace Route

/-- All places. -/
def all : List Route := [description, page, grantPage, otherPage, health, convert]

/-- The path of a place. -/
def path : Route → String
  | description => "/openapi.json"
  | page => "/docs"
  | grantPage => "/docs/oauth2-redirect"
  | otherPage => "/redoc"
  | health => "/healthz"
  | convert => "/api/convert"

/-- The methods that a place answers to. -/
def methods : Route → List String
  | health => ["GET"]
  | convert => ["POST"]
  | _ => ["GET", "HEAD"]

/-- The place at a path. Slashes at the end do not count. -/
def ofPath? (path : List Char) : Option Route :=
  all.find? fun r => r.path.toList == (path.reverse.dropWhile (· == '/')).reverse

end Route

/-! ### Responses -/

/-- What the service is: its configuration, its version, the defaults of options, and the room for
calls. -/
structure Server where
  config : ServiceConfig
  version : Option String
  defaults : Defaults
  stack : Convert.Stack

namespace Server

/-- The version in words. -/
def versionText (s : Server) : String := s.version.getD "unknown"

/-- The response about the state of the service. -/
def health (s : Server) : Response :=
  .ofValue 200 [] (.map [("status", .str "healthy"), ("api_version", .str s.versionText)])

/-- The answer to a request for a conversion, whose token is fine. -/
def answer (s : Server) (tree : Tree) (x : Submission) : Except Refusal Answer := do
  let o ← x.form.options s.defaults
  x.file.answer s.stack tree o x.schemaName s.config

/-- The check of the token in a request. -/
def authenticate (s : Server) (r : Request) : Except Refusal Unit := do
  let c ← Credentials.ofHeader ((r.header? "Authorization").getD "")
  let _ ← (Credentials.verify c s.config.token).result

/-- The response to a request for a conversion with some parts. -/
def convertParts (s : Server) (tree : Tree) (r : Request) (parts : Parts) : Response :=
  match s.authenticate r with
  | .error e => e.response
  | .ok _ => match Submission.ofParts parts with
    | .error fs => .ofDetail 422 [] (.list (fs.map fun (field, f) => f.toValue field))
    | .ok x => match s.answer tree x with
      | .error e => e.response
      | .ok a => .ofValue 200 [] a.toValue

/-- The response to a request for a conversion. -/
def convert (s : Server) (tree : Tree) (r : Request) : Response :=
  match r.arrived with
  | .error f => .ofDetail 400 [] (.str f.message)
  | .ok parts => s.convertParts tree r parts

/-- The response of a place. -/
def respondAt (s : Server) (tree : Tree) (r : Request) : Response :=
  match Route.ofPath? r.path with
  | none => .ofDetail 404 [] (.str "Not Found")
  | some route =>
    if !route.methods.contains r.method then
      .ofDetail 405 [("Allow", ", ".intercalate route.methods)] (.str "Method Not Allowed")
    else match route with
      | .health => s.health
      | .convert => s.convert tree r
      | .description => ⟨200, [("Content-Type", "application/json")], ""⟩
      | .page | .grantPage | .otherPage => ⟨200, [("Content-Type", "text/html; charset=utf-8")], ""⟩

/-- The response to a question whether a request may be sent. -/
def preflight (s : Server) (q : OriginQuestion) : Response :=
  let headers := credentialsHeader :: originHeaders s.config.origins q.origin
  match q.objections s.config.origins with
  | [] => .ofText 200 headers "OK"
  | os => .ofText 400 headers (objectionText os)

/-- The response, as far as it depends on where the request comes from. -/
def respondFrom (s : Server) (tree : Tree) (r : Request) : Response :=
  match r.header? "Origin" with
  | none => s.respondAt tree r
  | some origin =>
    match r.method, r.header? "Access-Control-Request-Method" with
    | "OPTIONS", some method =>
      s.preflight ⟨origin, method, (r.header? "Access-Control-Request-Private-Network").isSome⟩
    | _, _ =>
      let response := s.respondAt tree r
      { response with
        headers := response.headers ++ credentialsHeader :: originHeaders s.config.origins origin }

/-- Whether a text can stand in a header: its characters have one byte each. -/
def isHeaderText (text : String) : Bool := text.toList.all fun c => c.toNat < 0x100

/-- A text as it is read from a header: its bytes are taken for UTF-8 if they can be. -/
def readHeaderText (text : String) : String :=
  match decodeStrict (text.toList.map fun c => UInt8.ofNat c.toNat) with
  | .ok cs => String.ofList cs
  | .error _ => text

/-- The response to a request, whose version must fit in a header. -/
def respondVersioned (s : Server) (tree : Tree) (r : Request) : Response :=
  if isHeaderText s.versionText then
    let response := s.respondFrom tree r
    { response with
      headers := response.headers ++ [("X-API-Version", readHeaderText s.versionText)] }
  else .ofText 500 [] "Internal Server Error"

/-- The response to a request. One that asks for headers alone has no body. -/
def respond (s : Server) (tree : Tree) (r : Request) : Response :=
  let response := s.respondVersioned tree r
  { response with body := if r.method = "HEAD" then "" else response.body }

end Server

end ApiContract.Service
