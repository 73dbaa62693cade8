import Gatekeeper.Exchange
import Gatekeeper.Refusal.Negotiator

namespace Gatekeeper

variable {ω : Type}

/-- A responder sees the exchange but does not change it. -/
structure Responder (ω : Type) where
  respond : Exchange → AuthError → ω → Except Crash Http.Response × ω

def Negotiator.toResponder (n : Negotiator) : Responder ω where
  respond x e w := (.ok (n.respond x.request e), w)

end Gatekeeper
