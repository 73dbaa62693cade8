import Gatekeeper.Authenticator
import Gatekeeper.Chain.Strategy

namespace Gatekeeper

variable {ω : Type}

/-- A session module, if there is one, and the modules that are asked after it. -/
structure Chain (ω : Type) where
  session : Option (AuthModule ω) := none
  modules : List (AuthModule ω) := []
  strategy : Strategy := .firstMatch

namespace Chain

/-- All modules in the order they are asked. -/
def candidates (c : Chain ω) : List (AuthModule ω) := c.session.toList ++ c.modules

def moduleIds (c : Chain ω) : List String := c.candidates.map (·.id)

/-- The candidate that authenticated the exchange. -/
def authenticatedBy? (c : Chain ω) (p : Proceeding ω) : Option (AuthModule ω) :=
  p.vouchedBy.bind (c.candidates[·]?)

def diagnostic (c : Chain ω) : String :=
  Text.record "ModuleChain"
    [("session_module", Text.quotedOptional (c.session.map (·.id))),
     ("auth_modules", Text.quotedSequence (c.modules.map (·.id))),
     ("strategy", c.strategy.diagnostic)]

end Chain

end Gatekeeper
