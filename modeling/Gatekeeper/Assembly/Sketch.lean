import Gatekeeper.Assembly.Plan

namespace Gatekeeper

variable {ω : Type}

/-- A plan that is put together call by call. The writers count only if no responder is given. -/
structure Sketch (ω : Type) where
  plan : Plan ω := {}
  responder? : Option (Responder ω) := none
  writers : List Writer := []

namespace Sketch

def named (s : Sketch ω) (name : String) : Sketch ω :=
  { s with plan := { s.plan with logger := ⟨name⟩ } }

def logger (s : Sketch ω) (logger : Logger) : Sketch ω :=
  { s with plan := { s.plan with logger } }

def sink (s : Sketch ω) (sink : Audit.Sink ω) : Sketch ω :=
  { s with plan := { s.plan with sink := some sink } }

def service (s : Sketch ω) (service : Subject) : Sketch ω :=
  { s with plan := { s.plan with service } }

def responder (s : Sketch ω) (responder : Responder ω) : Sketch ω :=
  { s with responder? := some responder }

def writer (s : Sketch ω) (w : Writer) : Sketch ω := { s with writers := s.writers ++ [w] }

def session (s : Sketch ω) (m : Configured ω) : Sketch ω :=
  { s with plan := { s.plan with session := some m } }

def modules (s : Sketch ω) (ms : List (Configured ω)) : Sketch ω :=
  { s with plan := { s.plan with modules := s.plan.modules ++ ms } }

def authModule (s : Sketch ω) (m : Configured ω) : Sketch ω := s.modules [m]

def strategy (s : Sketch ω) (strategy : Strategy) : Sketch ω :=
  { s with plan := { s.plan with strategy } }

/-- The collected writers come after the JSON writer. -/
def negotiator (s : Sketch ω) : Negotiator := s.writers.foldl Negotiator.add {}

def toPlan (s : Sketch ω) : Plan ω :=
  { s.plan with responder := s.responder?.getD s.negotiator.toResponder }

def build (s : Sketch ω) : Build ω (Except BuildError (Gate ω)) := s.toPlan.build

def diagnostic (s : Sketch ω) : String :=
  Text.record "AuthenticationFilterBuilder"
    [("config", s.plan.diagnostic),
     ("response_writers", Text.quotedSequence (s.writers.map (·.mediaType)))]

end Sketch

end Gatekeeper
