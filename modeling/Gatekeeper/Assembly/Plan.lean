import Gatekeeper.Chain.Phases
import Gatekeeper.Gate.Basic
import Gatekeeper.Module.Configured

namespace Gatekeeper

variable {ω : Type}

/-- Everything a gate over a chain of modules is built from. -/
structure Plan (ω : Type) where
  logger : Logger := {}
  sink : Option (Audit.Sink ω) := none
  service : Subject := {}
  responder : Responder ω := Negotiator.toResponder {}
  session : Option (Configured ω) := none
  modules : List (Configured ω) := []
  strategy : Strategy := .firstMatch

namespace Plan

def setUpSession : Option (Configured ω) → Build ω (Except BuildError (Option (AuthModule ω)))
  | none => return .ok none
  | some c => do
    match ← c.setUp with
    | .error e => return .error e
    | .ok m => return .ok (some m)

def setUpAll : List (Configured ω) → Build ω (Except BuildError (List (AuthModule ω)))
  | [] => return .ok []
  | c :: rest => do
    match ← c.setUp with
    | .error e => return .error e
    | .ok m =>
      match ← setUpAll rest with
      | .error e => return .error e
      | .ok ms => return .ok (m :: ms)

def setUpChain (c : Plan ω) : Build ω (Except BuildError (Chain ω)) := do
  match ← setUpSession c.session with
  | .error e => return .error e
  | .ok session =>
    match ← setUpAll c.modules with
    | .error e => return .error e
    | .ok modules => return .ok { session, modules, strategy := c.strategy }

def assembledRecord (logger : Logger) (moduleIds : List String) : Log.Record :=
  { level := .info
    message := "authentication filter assembled"
    fields := [("logger", logger.name), ("modules", Text.quotedSequence moduleIds)] }

/-- Sets up the modules one after the other, the session module first, up to the first that cannot
be used. Without a sink none is set up. -/
def build (c : Plan ω) : Build ω (Except BuildError (Gate ω)) := do
  match c.sink with
  | none => return .error (.illegalState "AuditApi has not been set")
  | some sink =>
    match ← c.setUpChain with
    | .error e => return .error e
    | .ok chain =>
      Act.emit (.logged (assembledRecord c.logger chain.moduleIds))
      return .ok
        { logger := c.logger
          sink
          responder := c.responder
          authenticator := chain.toAuthenticator
          service := c.service }

def diagnostic (c : Plan ω) : String :=
  Text.openRecord "FilterConfig"
    [("logger", Text.quoted c.logger.name),
     ("audit_api", Text.flag c.sink.isSome),
     ("session_module", Text.optional (c.session.map Configured.diagnostic)),
     ("auth_modules", Text.sequence (c.modules.map Configured.diagnostic)),
     ("chain_strategy", c.strategy.diagnostic)]

end Plan

end Gatekeeper
