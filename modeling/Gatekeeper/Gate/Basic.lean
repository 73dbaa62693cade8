import Gatekeeper.Audit.Sink
import Gatekeeper.Authenticator
import Gatekeeper.Refusal.Responder

namespace Gatekeeper

open Http (Request Response)

variable {ω : Type}

/-- What the gate shares with its caller: the attributes of the request and the memory of the
collaborators. -/
structure Caller (ω : Type) where
  attributes : Attributes := {}
  memory : ω

/-- The protected resource. It may change the attributes it is given. -/
structure Resource (ω : Type) where
  handle : Request → Caller ω → Ending Response × Caller ω

/-- What happens in a run: the calls that the gate makes, with what it passes on, those of the
modules behind the authentication, and the log. -/
inductive Event where
  | opened (span : Log.Span)
  | logged (r : Log.Record)
  | called (place : Nat) (moduleId : String) (call : Call)
  | validating (exchange : Exchange) (client service : Subject)
  | dispatched (attributes : Attributes) (request : Request)
  | securing (exchange : Exchange) (service : Subject)
  | refused (exchange : Exchange) (error : AuthError)
  | cleaning (exchange : Exchange) (client : Subject)
  | audited (event : Audit.Event)

namespace Event

def ofActivity : Activity → Event
  | .called place moduleId call => .called place moduleId call
  | .logged r => .logged r

/-- Log records come to lie in the span; all else is left alone. -/
def within (span : String) : Event → Event
  | .logged r => .logged (r.within span)
  | e => e

def record? : Event → Option Log.Record
  | .logged r => some r
  | _ => none

end Event

/-- What stands in front of a resource. -/
structure Gate (ω : Type) where
  logger : Logger := {}
  sink : Audit.Sink ω
  responder : Responder ω
  authenticator : Authenticator ω
  service : Subject := {}

namespace Gate

def diagnostic (g : Gate ω) : String :=
  Text.openRecord "AuthenticationFramework" [("logger", Text.quoted g.logger.name)]

/-- The gate as a filter that requests pass through. -/
def filterDiagnostic (g : Gate ω) : String :=
  Text.record "AuthenticationFilter" [("framework", g.diagnostic)]

/-- The gate as a layer around a service. -/
def layerDiagnostic (g : Gate ω) : String :=
  Text.record "AuthenticationLayer" [("filter", g.filterDiagnostic)]

end Gate

end Gatekeeper
