import Gatekeeper.Proofs.Chain.Paired
import Gatekeeper.Proofs.Gate.InStep

namespace Gatekeeper

open Http (Request Response)

variable {ω : Type} {like : ω → ω → Prop} {b : Blur}

theorem Exchange.EqUpToTrail.eq {x x' : Exchange} (alike : x.EqUpToTrail Eq x') : x' = x := by
  cases x
  cases x'
  rw [Exchange.mk.injEq]
  exact ⟨alike.draft, alike.id, alike.trail.symm⟩

/-- What is seen of subjects where two runs are compared, which is not less than the name that they
go by. -/
structure Blur where
  mask : Subject → Subject
  names : ∀ s, (mask s).firstName? = s.firstName?

/-- All is seen of a subject. -/
def Blur.sharp : Blur := ⟨id, fun _ => rfl⟩

def Call.blur (mask : Subject → Subject) : Call → Call
  | validate x client service => validate x (mask client) (mask service)
  | secure x service => secure x (mask service)
  | clean x client => clean x (mask client)

def Event.blur (mask : Subject → Subject) : Event → Event
  | called place moduleId call => called place moduleId (call.blur mask)
  | validating x client service => validating x (mask client) (mask service)
  | securing x service => securing x (mask service)
  | cleaning x client => cleaning x (mask client)
  | e => e

theorem Event.blur_sharp : Event.blur Blur.sharp.mask = id := by
  funext e
  cases e with
  | called place moduleId call => cases call <;> rfl
  | _ => rfl

theorem Event.blur_within (mask : Subject → Subject) (span : String) (e : Event) :
    (e.within span).blur mask = (e.blur mask).within span := by
  cases e <;> rfl

section

variable {mask : Subject → Subject}

theorem Call.EqUpTo.blur_eq {call call' : Call}
    (alike : call.EqUpTo (fun s s' => mask s' = mask s) Eq call') :
    call'.blur mask = call.blur mask := by
  cases alike with
  | validate exchange clients services => rw [Call.blur, Call.blur, exchange.eq, clients, services]
  | secure exchange services => rw [Call.blur, Call.blur, exchange.eq, services]
  | clean exchange clients => rw [Call.blur, Call.blur, exchange.eq, clients]

theorem Event.EqUpTo.blur_eq {e e' : Event}
    (alike : e.EqUpTo (fun s s' => mask s' = mask s) Eq Eq id e') : e'.blur mask = e.blur mask := by
  cases alike with
  | logged r => rfl
  | called n moduleId alike => exact congrArg (Event.called n moduleId) alike.blur_eq
  | dispatched same request => rw [same]
  | refused exchange e => rw [exchange.eq]
  | validating exchange clients services => rw [blur, blur, exchange.eq, clients, services]
  | securing exchange services => rw [blur, blur, exchange.eq, services]
  | cleaning exchange clients => rw [blur, blur, exchange.eq, clients]

end

/-- Nothing differs but what is blurred of subjects, and what `like` leaves open of the memory. -/
def Leeway.strict (b : Blur) (like : ω → ω → Prop) : Leeway ω where
  memory := like
  subjects s s' := b.mask s' = b.mask s
  attributes := Eq
  trails := Eq
  place := id
  watch := ⟨some ∘ Event.blur b.mask, some ∘ Event.blur b.mask⟩
  grows notes same := by rw [same]
  names {s s'} same := by rw [← b.names s', ← b.names s, same]
  shows alike := congrArg some alike.blur_eq.symm

namespace Chain

variable {c c' : Chain ω} (paired : c.Paired (AuthModule.EqUpTo (.strict b like)) c')

include paired

theorem decidesInStep_of_eqUpTo {service service' : Subject}
    (services : b.mask service' = b.mask service) :
    c.Paired (AuthModule.DecidesInStep (Leeway.strict b like).alignment service service') c' :=
  paired.imp fun _ _ near => near.decidesInStep services

theorem clean_inStep : Duty.InStep (.strict b like) Eq c.clean c'.clean :=
  cleanFrom_inStep (fun _ => rfl) paired.candidates fun _ _ => rfl

end Chain

/-- The two take every event the same way. -/
structure Audit.Sink.EqUpToMemory (like : ω → ω → Prop) (s s' : Audit.Sink ω) : Prop where
  answer : ∀ e {w w'}, like w w' → (s'.receive e w').answer = (s.receive e w).answer
  logs : ∀ e {w w'}, like w w' → (s'.receive e w').logs = (s.receive e w).logs
  memory : ∀ e {w w'}, like w w' → like (s.receive e w).memory (s'.receive e w').memory

theorem Custody.EqUpToMemory.eq {h h' : Custody ω} (agree : Custody.EqUpToMemory Eq h h') :
    h' = h := by
  cases h
  cases h'
  rw [Custody.mk.injEq]
  exact ⟨agree.client, agree.memory.symm⟩

theorem Phases.eqUpTo_self (p : Phases ω) : Phases.EqUpToTrail Eq Eq p p where
  validate service _ _ _ _ alike held := by
    rw [alike.eq, held.eq]
    exact ⟨rfl, rfl, rfl, rfl, rfl⟩
  secure service _ _ _ _ alike same := by
    rw [alike.eq, same]
    exact ⟨rfl, rfl, rfl, rfl⟩
  clean alike held := by
    rw [alike.eq, held.eq]
    exact ⟨rfl, rfl, rfl, rfl, rfl⟩

theorem Responder.eqUpTo_self (r : Responder ω) : Responder.EqUpToTrail Eq Eq r r where
  answer e _ _ alike same := by rw [alike.eq, same]
  memory e _ _ alike same := by rw [alike.eq, same]

theorem Resource.eqUpTo_self (r : Resource ω) : Resource.EqUpToAttributes Eq Eq r r where
  answer request c c' alike := by
    obtain ⟨attributes, memory⟩ := c
    obtain ⟨attributes', memory'⟩ := c'
    obtain ⟨rfl, rfl⟩ := alike
    rfl
  caller request c c' alike := by
    obtain ⟨attributes, memory⟩ := c
    obtain ⟨attributes', memory'⟩ := c'
    obtain ⟨rfl, rfl⟩ := alike
    exact ⟨rfl, rfl⟩

theorem Audit.Sink.eqUpTo_self (s : Audit.Sink ω) : Audit.Sink.EqUpToMemory Eq s s where
  answer e _ _ same := by rw [same]
  logs e _ _ same := by rw [same]
  memory e _ _ same := by rw [same]

/-- The two gates do the same in every phase and with every error and event. -/
structure Gate.EqUpToBlur (b : Blur) (like : ω → ω → Prop) (g g' : Gate ω) : Prop where
  eqUpTo : g.EqUpTo (.strict b like) g'
  validate : Duty.InStep (.strict b like) Eq (g.authenticator.validate g.service)
    (g'.authenticator.validate g'.service)
  clean : Duty.InStep (.strict b like) Eq g.authenticator.clean g'.authenticator.clean
  sink : Audit.Sink.EqUpToMemory like g.sink g'.sink

/-- Nor can gates be told apart whose chains consist of modules that work the same way, and whose
services look the same. -/
theorem Chain.Paired.eqUpToBlur {c c' : Chain ω}
    (paired : c.Paired (AuthModule.EqUpTo (.strict b like)) c') {g : Gate ω} {service : Subject}
    (services : b.mask service = b.mask g.service)
    (responder : Responder.EqUpToTrail Eq like g.responder g.responder)
    (sink : Audit.Sink.EqUpToMemory like g.sink g.sink) :
    Gate.EqUpToBlur b like { g with authenticator := c.toAuthenticator }
      { g with authenticator := c'.toAuthenticator, service } := by
  have decides := decidesInStep_of_eqUpTo paired services
  have ids : c'.moduleIds = c.moduleIds := paired.moduleIds fun _ _ near => near.id
  have grants {a a' : Attributes} (principal : Option String) (published : Json.Object)
      (same : a = a') :
      a.authenticate principal c.moduleIds published =
        a'.authenticate principal c'.moduleIds published := by
    rw [same, ids]
  exact
    { eqUpTo :=
        { logger := rfl
          service := services
          responder
          secure := secure_inStep (decides.stay fun _ => rfl)
          grants }
      validate := validate_inStep decides fun _ => rfl
      clean := clean_inStep paired
      sink }

namespace Gate.EqUpToBlur

variable {g g' : Gate ω} (near : g.EqUpToBlur b like g') (t : Ticket)

include near

theorem say_inStep (level : Log.Level) (message : String) :
    Step.InStep (.strict b like) (fun _ _ => True) (g.say t level message)
      (g'.say t level message) :=
  Gate.say_inStep near.eqUpTo t level message

theorem audit_inStep (principal : Option String) (outcome : Audit.Outcome) :
    Step.InStep (.strict b like) Eq (g.audit t principal outcome)
      (g'.audit t principal outcome) := by
  intro s s' held
  have memory := held.proceeding.custody.memory
  have report : s'.report t principal outcome = s.report t principal outcome := by
    rw [Scene.report, Scene.report, held.proceeding.exchange.eq]
  have answer := near.sink.answer (s.report t principal outcome) memory
  have logs := near.sink.logs (s.report t principal outcome) memory
  have left := held.proceeding.remember
    (near.sink.memory (s.report t principal outcome) memory)
  rw [audit_apply, audit_apply, report, answer]
  constructor
  case ending => exact .of_eq rfl
  case state => exact ⟨left, held.attributes, held.principal⟩
  case journal =>
    rw [auditLog, auditLog, answer, logs, near.eqUpTo.logger]
    rfl

theorem sweep_inStep : Step.InStep (.strict b like) Eq g.clean g'.clean := by
  refine Gate.clean_inStep near.clean ?_
  intro e
  rfl

theorem cleanAtOnce_inStep :
    Step.InStep (.strict b like) (fun _ _ => True) (g.cleanAtOnce t) (g'.cleanAtOnce t) := by
  refine near.sweep_inStep.attempt_eq.bind_eq ?_
  intro cleaned
  match cleaned with
  | .settled (.ok ()) => exact .pure trivial
  | .settled (.error e) => exact near.say_inStep t .error _
  | .halted _ => exact near.say_inStep t .error _

theorem forsake_inStep (h : Halt) :
    Step.InStep (.strict b like) Eq (g.forsake t h) (g'.forsake t h) := by
  have clearing : Step.InStep (.strict b like) (fun _ _ => True)
      (Act.modify fun s => { s with client := s.client.clear })
      (Act.modify fun s => { s with client := s.client.clear }) := by
    refine .modify ?_
    intro s s' held
    have custody : Custody.EqUpTo (fun s s' => b.mask s' = b.mask s) like
        { s.toCustody with client := s.client.clear }
        { s'.toCustody with client := s'.client.clear } :=
      ⟨rfl, held.proceeding.custody.memory⟩
    exact ⟨⟨custody, held.proceeding.exchange, held.proceeding.vouchedBy⟩, held.attributes,
      held.principal⟩
  refine clearing.seq (.get_bind ?_)
  intro s s' held
  rw [held.principal]
  exact (near.audit_inStep t s.principal .error).bind fun _ _ _ => .halt h

theorem abandon_inStep (h : Halt) (uncleaned : Bool) :
    Step.InStep (.strict b like) Eq (g.abandon t h uncleaned : Step ω Response)
      (g'.abandon t h uncleaned : Step ω Response) := by
  have said := near.say_inStep t .warn "request dropped before completion"
  have forsaken := near.forsake_inStep t h
  cases uncleaned with
  | true =>
    have cleaned := near.cleanAtOnce_inStep t
    exact said.seq (cleaned.seq forsaken)
  | false => exact said.seq forsaken

theorem finish_inStep (settlement : Settlement) :
    Step.InStep (.strict b like) Eq (g.finish t settlement) (g'.finish t settlement) := by
  refine .get_bind ?_
  intro s s' held
  have attributes : s'.attributes = s.attributes := held.attributes.symm
  have audited := near.audit_inStep t s.attributes.principal settlement.outcome
  rw [attributes]
  refine audited.bind_eq ?_
  intro _
  exact (near.say_inStep t .debug _).seq (.pure rfl)

theorem conclude_inStep (settlement : Settlement) :
    Step.InStep (.strict b like) Eq (g.conclude t settlement) (g'.conclude t settlement) := by
  have finished := near.finish_inStep t settlement
  refine near.sweep_inStep.attempt_eq.bind_eq ?_
  intro cleaned
  match cleaned with
  | .halted h => exact near.abandon_inStep t h false
  | .settled (.ok ()) => exact finished
  | .settled (.error e) => exact (near.say_inStep t .error _).seq finished

variable {resource resource' : Resource ω}
variable (resources : Resource.EqUpToAttributes Eq like resource resource')

include resources

theorem run_inStep : Step.InStep (.strict b like) Eq (g.run t resource) (g'.run t resource') := by
  have authenticated : Step.InStep (.strict b like) Eq (g.authenticate t resource)
      (g'.authenticate t resource') := by
    intro s s' held
    have phase := near.validate s.toProceeding s'.toProceeding held.proceeding
    have noted := (Leeway.strict b like).shows
      (.validating held.proceeding.exchange held.proceeding.custody.client near.eqUpTo.service)
    have validated : (g.validate s).InStep (Leeway.strict b like).watch
        (Scene.EqUpTo (.strict b like)) Eq (g'.validate s') :=
      perform_inStep phase noted held.attributes held.principal fun _ => rfl
    exact Gate.authenticate_inStep near.eqUpTo t resources validated
  refine authenticated.attempt_eq.bind_eq ?_
  intro ended
  cases ended with
  | halted h => exact near.abandon_inStep t h true
  | settled settlement => exact near.conclude_inStep t settlement

/-- A request goes the same way at both gates. -/
theorem process_inStep (fresh : String) (request : Request) {c c' : Caller ω}
    (callers : Caller.EqUpToAttributes Eq like c c') :
    let r := g.process fresh resource request c
    let r' := g'.process fresh resource' request c'
    r'.ending = r.ending ∧ Caller.EqUpToAttributes Eq like r.state r'.state ∧
      r'.journal.map (Event.blur b.mask) = r.journal.map (Event.blur b.mask) := by
  obtain ⟨attributes, memory⟩ := c
  obtain ⟨attributes', memory'⟩ := c'
  obtain ⟨rfl, memories⟩ := callers
  let t := issue fresh request (⟨attributes, memory⟩ : Caller ω)
  have start : (opening fresh request ⟨attributes, memory⟩).EqUpTo (.strict b like)
      (opening fresh request ⟨attributes, memory'⟩) := by
    have exchange : Exchange.EqUpToTrail Eq (Exchange.start t.id request)
        (Exchange.start t.id request) := ⟨rfl, rfl, rfl⟩
    exact ⟨⟨⟨rfl, memories⟩, exchange, rfl⟩, rfl, rfl⟩
  obtain ⟨ending, state, journal⟩ := near.run_inStep t resources _ _ start
  have noted : (g'.run t resource' (opening fresh request ⟨attributes, memory'⟩)).journal.map
        (Event.blur b.mask) =
      (g.run t resource (opening fresh request ⟨attributes, memory⟩)).journal.map
        (Event.blur b.mask) := by
    simpa [Leeway.strict] using journal.symm
  have spans : g'.span t = g.span t := by rw [span, span, near.eqUpTo.logger]
  have spanned (journal : List Event) :
      (journal.map (Event.within spanName)).map (Event.blur b.mask) =
        (journal.map (Event.blur b.mask)).map (Event.within spanName) := by
    rw [List.map_map, List.map_map]
    apply List.map_congr_left
    intro e _
    exact e.blur_within b.mask spanName
  refine ⟨ending.eq, ⟨state.attributes, state.proceeding.custody.memory⟩, ?_⟩
  rw [process_apply, process_apply, List.map_cons, List.map_cons, spanned, spanned]
  exact congrArg₂ (List.cons ∘ Event.opened) spans (congrArg _ noted)

end Gate.EqUpToBlur

end Gatekeeper
