import Gatekeeper.Chain.Basic

namespace Gatekeeper

variable {ω : Type}

/-- The log record of one decision. -/
def decisionRecord (requestId moduleId : String) (phase : Phase) : Answer → Log.Record
  | .ok v =>
    { level := .debug
      message := "module settled"
      fields := [("request_id", requestId), ("module", moduleId), ("phase", phase.name),
        ("status", Verdict.describe v)] }
  | .error e =>
    { level := .debug
      message := "module failed"
      fields := [("request_id", requestId), ("module", moduleId), ("phase", phase.name),
        ("error", e.message)] }

def uncleanRecord (requestId moduleId : String) (e : AuthError) : Log.Record :=
  { level := .debug
    message := "module failed to clean subject"
    fields := [("request_id", requestId), ("module", moduleId), ("error", e.message)] }

def Proceeding.recordDecision (p : Proceeding ω) (moduleId : String) (phase : Phase)
    (a : Answer) : Proceeding ω :=
  { p with exchange :=
    { p.exchange with trail :=
      match a with
      | .ok v => p.exchange.trail.recordVerdict moduleId phase v
      | .error e => p.exchange.trail.recordFailure moduleId phase e } }

/-- Logs a decision and adds it to the trail. -/
def noteDecision (moduleId : String) (phase : Phase) (a : Answer) : Duty ω Unit := do
  let p ← Act.get
  Act.emit (.logged (decisionRecord p.exchange.id moduleId phase a))
  Act.modify (·.recordDecision moduleId phase a)

namespace AuthModule

/-- Visits under the guard, so that a crash counts as a failure, and notes the decision. -/
protected def decide (m : AuthModule ω) (phase : Phase) (visit : Duty ω Answer) :
    Duty ω Answer := do
  let a ← visit.guarded
  noteDecision m.id phase a
  return a

def decideValidation (m : AuthModule ω) (place : Nat) (service : Subject) : Duty ω Answer :=
  m.decide .validateRequest (m.validateAt place service)

def decideSecuring (m : AuthModule ω) (place : Nat) (service : Subject) : Duty ω Answer :=
  m.decide .secureResponse (m.secureAt place service)

/-- Cleaning adds no decision; a failure is only logged. -/
def attemptCleaning (m : AuthModule ω) (place : Nat) : Duty ω (Except AuthError Unit) := do
  let a ← (m.cleanAt place).guarded
  match a with
  | .ok () => return a
  | .error e =>
    let p ← Act.get
    Act.emit (.logged (uncleanRecord p.exchange.id m.id e))
    return a

end AuthModule

namespace Chain

def vouch (place : Option Nat) : Duty ω Unit := Act.modify ({ · with vouchedBy := place })

/-- Asks the candidates from a place on. -/
def walk (s : Strategy) (service : Subject) : Nat → List (AuthModule ω) → Duty ω Answer
  | _, [] => return .ok s.exhausted
  | place, m :: rest => do
    match ← m.decideValidation place service with
    | .error e => return .error e
    | .ok v =>
      if s.fallsThrough v then walk s service (place + 1) rest
      else do
        if v = some .success then vouch (some place)
        return .ok v

/-- What an earlier validation found is forgotten first. -/
def validate (c : Chain ω) (service : Subject) : Duty ω Answer := do
  vouch none
  walk c.strategy service 0 c.candidates

/-- The session module secures after another module if the strategy wants it to. -/
def secureSession (c : Chain ω) (service : Subject) (place : Nat) (v : Option Verdict) :
    Duty ω Answer :=
  match c.session with
  | some session =>
    if place ≠ 0 ∧ c.strategy.sessionSecuresAfter v then session.decideSecuring 0 service
    else return .ok v
  | none => return .ok v

/-- A response to a request that nobody authenticated goes out as it stands. -/
def secure (c : Chain ω) (service : Subject) : Duty ω Answer := do
  let p ← Act.get
  match p.vouchedBy with
  | none => return .ok (some .sendSuccess)
  | some place =>
    match c.candidates[place]? with
    | none => return .ok (some .sendSuccess)
    | some m =>
      match ← m.decideSecuring place service with
      | .error e => return .error e
      | .ok v => c.secureSession service place v

/-- Goes on after a failure; the first one is the result. -/
def cleanFrom : Nat → List (AuthModule ω) → Duty ω (Except AuthError Unit)
  | _, [] => return .ok ()
  | place, m :: rest => do
    let first ← m.attemptCleaning place
    let others ← cleanFrom (place + 1) rest
    match first with
    | .error e => return .error e
    | .ok () => return others

def clean (c : Chain ω) : Duty ω (Except AuthError Unit) := cleanFrom 0 c.candidates

def toAuthenticator (c : Chain ω) : Authenticator ω where
  moduleIds := c.moduleIds
  validate := c.validate
  secure := c.secure
  clean := c.clean

end Chain

end Gatekeeper
