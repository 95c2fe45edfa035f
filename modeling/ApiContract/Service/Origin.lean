/-!
Requests from other origins. A browser asks first whether it may send a request; it may if its origin
is known and the method is one of those that a request can have. Answers to known origins name the
origin, and every answer to a request that names one allows credentials.
-/

namespace ApiContract.Service

/-- The methods that requests from other origins may have. -/
def crossOriginMethods : List String :=
  ["DELETE", "GET", "HEAD", "OPTIONS", "PATCH", "POST", "PUT", "QUERY"]

/-- Whether requests from an origin are welcome. -/
def isKnownOrigin (origins : List String) (origin : String) : Bool :=
  origins.contains "*" || origins.contains origin

/-- The header that allows credentials. -/
def credentialsHeader : String × String := ("Access-Control-Allow-Credentials", "true")

/-- The header that names a welcome origin. -/
def originHeaders (origins : List String) (origin : String) : List (String × String) :=
  if isKnownOrigin origins origin then [("Access-Control-Allow-Origin", origin)] else []

/-- A question whether a request may be sent: its origin, its method, and whether it is for a private
network, which it may not be. -/
structure OriginQuestion where
  origin : String
  method : String
  isPrivate : Bool
  deriving Repr

/-- What stands against a request that is asked about. -/
def OriginQuestion.objections (origins : List String) (q : OriginQuestion) : List String :=
  (if isKnownOrigin origins q.origin then [] else ["origin"]) ++
    (if crossOriginMethods.contains q.method then [] else ["method"]) ++
    (if q.isPrivate then ["private-network"] else [])

/-- What stands against a request, in words. -/
def objectionText (objections : List String) : String :=
  "Disallowed CORS " ++ ", ".intercalate objections

end ApiContract.Service
