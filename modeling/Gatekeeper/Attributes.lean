import Gatekeeper.Json.Value
import Gatekeeper.Text.Record

namespace Gatekeeper

/-- What the gate tells the resource about a request. `authContext` lists the modules behind the
authentication. -/
structure Attributes where
  requestId : Option String := none
  principal : Option String := none
  authContext : Option (List String) := none
  published : Json.Object := []

namespace Attributes

def requestIdKey : String := "authn.request_id"

def principalKey : String := "authn.principal"

def contextKey : String := "authn.context"

def isAuthenticated (a : Attributes) : Bool := a.authContext.isSome

/-- The value under a key; published values are there only after an authentication. -/
def attribute? (a : Attributes) (key : String) : Option Json.Value :=
  if key = requestIdKey then a.requestId.map .string
  else if key = principalKey then a.principal.map .string
  else if key = contextKey then a.authContext.map fun _ => .object a.published
  else none

/-- An id that is there already, even an empty one, stays. -/
def assignRequestId (a : Attributes) (fresh : String) : Attributes :=
  { a with requestId := some (a.requestId.getD fresh) }

/-- Replaces all but the request id. -/
def authenticate (a : Attributes) (principal : Option String) (authContext : List String)
    (published : Json.Object) : Attributes :=
  { a with principal, authContext := some authContext, published }

/-- Shows the keys of the published values only. -/
def diagnostic (a : Attributes) : String :=
  Text.record "AttributesContext"
    [("request_id", Text.quotedOptional a.requestId),
     ("principal", Text.quotedOptional a.principal),
     ("auth_context", Text.flag a.isAuthenticated),
     ("published", Text.quotedSequence a.published.keys)]

end Attributes

end Gatekeeper
