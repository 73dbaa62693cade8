import Gatekeeper.Gate.Basic

namespace Gatekeeper

open Http (Request Response StatusCode)

variable {ω α : Type}

/-- What a run keeps of its request from the start. -/
structure Ticket where
  id : String
  method : String
  path : String

/-- A run under way. `principal` is the one that this run resolved. -/
structure Scene (ω : Type) extends Proceeding ω where
  attributes : Attributes
  principal : Option String := none

abbrev Step (ω α : Type) := Act (Scene ω) Event α

/-- How the gate settled a request, before cleaning and audit. -/
structure Settlement where
  response : Response
  outcome : Audit.Outcome

def Scene.caller (s : Scene ω) : Caller ω := ⟨s.attributes, s.memory⟩

/-- A value shared under the principal's key wins over the names of the client subject. A shared
value that is not a string counts with its JSON text. -/
def Proceeding.resolvePrincipal (p : Proceeding ω) : Option String :=
  match Json.Object.get? p.exchange.shared Attributes.principalKey with
  | some (.string name) => some name
  | some .null | none => p.client.firstName?
  | some other => some other.canonical.compact

/-- A verdict that the phase cannot end with. -/
def AuthError.invalidVerdict (v : Option Verdict) (phase : Phase) : AuthError :=
  { message := "invalid status " ++ Verdict.describe v ++ " returned from " ++ phase.name }

namespace Gate

variable (g : Gate ω) (t : Ticket)

def say (level : Log.Level) (message : String) : Step ω Unit :=
  Act.emit (.logged ((g.logger.forRequest t.id).record level message))

/-- A phase of the authenticator; a crash of it is an error. -/
def perform (event : Scene ω → Event) (d : Duty ω (Except AuthError α)) :
    Step ω (Except AuthError α) := do
  Act.emit (event (← Act.get))
  ((d.mapJournal Event.ofActivity).focus Scene.toProceeding
    fun p s => { s with toProceeding := p }).guarded

def validate : Step ω Answer :=
  perform (fun s => .validating s.exchange s.client g.service) (g.authenticator.validate g.service)

def secure : Step ω Answer :=
  perform (fun s => .securing s.exchange g.service) (g.authenticator.secure g.service)

def clean : Step ω (Except AuthError Unit) :=
  perform (fun s => .cleaning s.exchange s.client) g.authenticator.clean

/-- Lets the responder answer an error. -/
def refuse (e : AuthError) : Step ω Settlement := do
  let s ← Act.get
  Act.emit (.refused s.exchange e)
  let response ← Act.prompt fun s =>
    let r := g.responder.respond s.exchange e s.memory
    (r.1, { s with memory := r.2 })
  return ⟨response, .error⟩

/-- The response as the modules left it. -/
def release (outcome : Audit.Outcome) : Step ω Settlement := do
  let s ← Act.get
  Act.modify fun s => { s with exchange := s.exchange.takeResponse }
  return ⟨s.exchange.response, outcome⟩

/-- From here on the attributes tell of this authentication only. -/
def grant : Step ω Unit :=
  Act.modify fun s =>
    let principal := s.resolvePrincipal
    { s with
      principal
      attributes :=
        s.attributes.authenticate principal g.authenticator.moduleIds s.exchange.shared }

/-- The resource gets the request object itself, and the exchange keeps a copy. -/
def dispatch (resource : Resource ω) : Step ω Unit := do
  let s ← Act.get
  Act.emit (.dispatched s.attributes s.exchange.request)
  let response ← fun s : Scene ω =>
    let r := resource.handle s.exchange.request s.caller
    { ending := r.1
      state :=
        { s with
          exchange := s.exchange.detachRequest
          attributes := r.2.attributes
          memory := r.2.memory } }
  Act.modify fun s => { s with exchange := { s.exchange with response } }

def settleSecuring : Answer → Step ω Settlement
  | .ok (some .sendSuccess) | .ok (some .sendContinue) => release .success
  | .ok (some .sendFailure) => do
    g.say t .warn "response securing failed"
    return ⟨.bare .internalServerError, .error⟩
  | .ok v => do
    let e := AuthError.invalidVerdict v .secureResponse
    g.say t .error e.message
    g.refuse e
  | .error e => do
    g.say t .warn ("response securing failed: " ++ e.message)
    g.refuse e

def serveAuthenticated (resource : Resource ω) : Step ω Settlement := do
  g.grant
  g.say t .debug "dispatching request"
  dispatch resource
  g.settleSecuring t (← g.secure)

def settleValidation (resource : Resource ω) : Option Verdict → Step ω Settlement
  | some .success => g.serveAuthenticated t resource
  | some .sendSuccess | some .sendContinue => release .continued
  | some .sendFailure => return ⟨.bare .unauthorized, .denied⟩
  | v => do
    let e := AuthError.invalidVerdict v .validateRequest
    g.say t .error e.message
    g.refuse e

def authenticate (resource : Resource ω) : Step ω Settlement := do
  match ← g.validate with
  | .error e =>
    g.say t .warn ("request validation failed: " ++ e.message)
    g.refuse e
  | .ok v =>
    g.say t .debug ("validate_request settled: " ++ Verdict.describe v)
    g.settleValidation t resource v

def noteUnclean (e : AuthError) : Step ω Unit :=
  g.say t .error ("failed to clean client subject: " ++ e.message)

/-- Audits the request. That the sink refuses the event is only logged. -/
def audit (principal : Option String) (outcome : Audit.Outcome) : Step ω Unit := do
  let s ← Act.get
  let event : Audit.Event :=
    { s.exchange.trail.toEvent t.id principal outcome with method := t.method, path := t.path }
  Act.emit (.audited event)
  let answer ← fun s : Scene ω =>
    let r := g.sink.receive event s.memory
    { ending := .ofExcept r.answer
      state := { s with memory := r.memory }
      journal := r.logs.map Event.logged }
  match answer with
  | .ok () => return
  | .error e => g.say t .error e.text

/-- Cleaning that nobody waits for. It is polled once, so that a cleaning which would settle only
after a wait counts as pending here. -/
def cleanAtOnce : Step ω Unit := do
  match ← g.clean.attempt with
  | .settled (.ok ()) => return
  | .settled (.error e) => g.noteUnclean t e
  | .halted _ => g.say t .error "client subject cleanup did not complete"

/-- Settles what is left of a run that came to a halt, and halts. -/
def abandon (h : Halt) (uncleaned : Bool) : Step ω α := do
  g.say t .warn "request dropped before completion"
  if uncleaned then g.cleanAtOnce t
  Act.modify fun s => { s with client := s.client.clear }
  let s ← Act.get
  g.audit t s.principal .error
  Act.ofEnding (.halted h)

def finish (s : Settlement) : Step ω Response := do
  let scene ← Act.get
  g.audit t scene.attributes.principal s.outcome
  g.say t .debug
    ("request finished: outcome=" ++ s.outcome.name ++ ", status=" ++ s.response.status.text)
  return s.response

def conclude (s : Settlement) : Step ω Response := do
  match ← g.clean.attempt with
  | .halted h => g.abandon t h false
  | .settled (.ok ()) => g.finish t s
  | .settled (.error e) => do
    g.noteUnclean t e
    g.finish t s

/-- The request is authenticated and served, then the client subject is cleaned and the request is
audited. If that comes to a halt, what is left of the last two is still done, and the audit tells of
an error. -/
def run (resource : Resource ω) : Step ω Response := do
  match ← (g.authenticate t resource).attempt with
  | .halted h => g.abandon t h true
  | .settled s => g.conclude t s

def spanName : String := "authn"

def span : Log.Span :=
  { name := spanName
    level := .info
    fields := [("logger", g.logger.name), ("request_id", t.id), ("method", t.method),
      ("path", t.path)] }

/-- Takes a request through the gate. `fresh` is the id of a request that has none yet. -/
def process (fresh : String) (resource : Resource ω) (request : Request) :
    Act (Caller ω) Event Response := fun c =>
  let attributes := c.attributes.assignRequestId fresh
  let ticket : Ticket :=
    { id := attributes.requestId.getD fresh, method := request.method, path := request.uri.path }
  let start : Scene ω :=
    { memory := c.memory, exchange := .start ticket.id request, attributes }
  let r := (g.run ticket resource).mapJournal (Event.within spanName) start
  { ending := r.ending
    state := r.state.caller
    journal := .opened (g.span ticket) :: r.journal }

end Gate

end Gatekeeper
