import ApiContract.Environment
import ApiContract.Log
import ApiContract.Service.Refusal

/-!
Bearer tokens: a request names a scheme and a token in a header, and is let in if the token is that
of the service.
-/

namespace ApiContract.Service

open ApiContract.Text

/-- What a request brings to be let in. -/
structure Credentials where
  scheme : String
  token : String
  deriving Repr, DecidableEq

/-- The credentials in a header: the scheme, a space and the token. Blanks around the token do not
count. -/
def Credentials.ofHeader (header : String) : Except Refusal Credentials :=
  match header.toList.span (· ≠ ' ') with
  | (scheme, _ :: rest) =>
    let s := String.ofList scheme
    let token := trim isBlank rest
    if lower s = "bearer" ∧ !token.isEmpty then .ok ⟨s, String.ofList token⟩ else .error .noToken
  | _ => .error .noToken

/-- The token of credentials, if it is that of the service. -/
def Credentials.verify (c : Credentials) (expected : String) : Logged Refusal String :=
  if c.token = expected then pure c.token
  else
    ⟨[⟨.warning, "Rejected conversion request with an invalid " ++ c.scheme ++ " token"⟩],
      .error .wrongToken⟩

/-- Whether the token of a service is the one that everybody knows. -/
def usesDefaultToken (token : String) : Bool := token == defaultToken

/-- The messages while a service starts and stops. -/
def lifeNotes (token : String) : List LogEntry :=
  ⟨.info, "Starting XSD to OpenAPI service"⟩ ::
    (if usesDefaultToken token then
      [⟨.warning, "Using the default API token. Set XSD_OPENAPI_API_TOKEN for production"⟩]
    else []) ++
    [⟨.info, "Shutting down XSD to OpenAPI service"⟩]

end ApiContract.Service
