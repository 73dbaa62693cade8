import Gatekeeper.Proofs.Chain.InStep
import Gatekeeper.Proofs.Gate.Cleanup

namespace Gatekeeper

open Http (Response)

variable {ω α α' : Type} {l : Leeway ω}

abbrev Step.InStep (l : Leeway ω) (same : α → α' → Prop) (x : Step ω α) (x' : Step ω α') : Prop :=
  Act.InStep l.watch (Scene.EqUpTo l) same x x'

/-- Two gates that secure in step, refuse the same way, and grant what is near. -/
structure Gate.EqUpTo (l : Leeway ω) (g g' : Gate ω) : Prop where
  logger : g'.logger = g.logger
  service : l.subjects g.service g'.service
  responder : Responder.EqUpToTrail l.trails l.memory g.responder g'.responder
  secure : Duty.InStep l Eq (g.authenticator.secure g.service) (g'.authenticator.secure g'.service)
  grants : ∀ {a a'} principal published, l.attributes a a' →
    l.attributes (a.authenticate principal g.authenticator.moduleIds published)
      (a'.authenticate principal g'.authenticator.moduleIds published)

theorem Proceeding.EqUpTo.resolvePrincipal {p p' : Proceeding ω} (near : p.EqUpTo l p') :
    p'.resolvePrincipal = p.resolvePrincipal := by
  rw [Proceeding.resolvePrincipal, Proceeding.resolvePrincipal, near.exchange.draft,
    l.names near.custody.client]

namespace Gate

/-- The phase of a module behind the gate, where it goes in step from these scenes. -/
theorem perform_inStep {same : Except AuthError α → Except AuthError α' → Prop}
    {event event' : Scene ω → Event} {d : Duty ω (Except AuthError α)}
    {d' : Duty ω (Except AuthError α')} {s s' : Scene ω}
    (phase : (d s.toProceeding).InStep (l.watch.comap Event.ofActivity) (Proceeding.EqUpTo l) same
      (d' s'.toProceeding))
    (noted : l.watch.first (event s) = l.watch.second (event' s'))
    (attributes : l.attributes s.attributes s'.attributes)
    (principal : s'.principal = s.principal) (errors : ∀ e, same (.error e) (.error e)) :
    (perform event d s).InStep l.watch (Scene.EqUpTo l) same (perform event' d' s') := by
  obtain ⟨ending, proceeding, journal⟩ := phase
  rw [perform_apply, perform_apply]
  constructor
  case ending => exact ending.contained errors
  case state => exact ⟨proceeding, attributes, principal⟩
  case journal =>
    rw [List.filterMap_cons, List.filterMap_cons, noted, List.filterMap_map, List.filterMap_map]
    exact journal ▸ rfl

variable {g g' : Gate ω} {resource resource' : Resource ω} (near : g.EqUpTo l g') (t : Ticket)

include near

theorem say_inStep (level : Log.Level) (message : String) :
    Step.InStep l (fun _ _ => True) (g.say t level message) (g'.say t level message) := by
  unfold say
  rw [near.logger]
  exact .emit (l.shows (.logged _))

theorem secure_inStep : Step.InStep l Eq g.secure g'.secure := by
  intro s s' held
  have phase := near.secure s.toProceeding s'.toProceeding held.proceeding
  have noted := l.shows (.securing held.proceeding.exchange near.service)
  refine perform_inStep phase noted held.attributes held.principal ?_
  intro e
  rfl

omit near in
theorem clean_inStep {same : Except AuthError Unit → Except AuthError Unit → Prop}
    (cleans : Duty.InStep l same g.authenticator.clean g'.authenticator.clean)
    (errors : ∀ e, same (.error e) (.error e)) : Step.InStep l same g.clean g'.clean := by
  intro s s' held
  have phase := cleans s.toProceeding s'.toProceeding held.proceeding
  have noted := l.shows (.cleaning held.proceeding.exchange held.proceeding.custody.client)
  exact perform_inStep phase noted held.attributes held.principal errors

theorem refuse_inStep (e : AuthError) : Step.InStep l Eq (g.refuse e) (g'.refuse e) := by
  intro s s' held
  have exchange := held.proceeding.exchange
  have memory := held.proceeding.custody.memory
  have answer := near.responder.answer e exchange memory
  have left := held.proceeding.remember (near.responder.memory e exchange memory)
  rw [refuse_apply, refuse_apply, answer]
  constructor
  case ending => exact .of_eq rfl
  case state => exact ⟨left, held.attributes, held.principal⟩
  case journal => exact l.noted (.refused exchange e)

omit near in
theorem release_inStep (outcome : Audit.Outcome) :
    Step.InStep l Eq (release outcome) (release outcome) := by
  intro s s' held
  have left := held.proceeding.redraft fun d => { d with response := {} }
  rw [release_apply, release_apply, held.proceeding.exchange.draft]
  constructor
  case ending => exact .of_eq rfl
  case state => exact ⟨left, held.attributes, held.principal⟩
  case journal => rfl

theorem grant_inStep : Step.InStep l (fun _ _ => True) g.grant g'.grant := by
  refine .modify ?_
  intro s s' held
  have principal := held.proceeding.resolvePrincipal
  have shared : s'.exchange.shared = s.exchange.shared :=
    congrArg Draft.shared held.proceeding.exchange.draft
  refine ⟨held.proceeding, ?_, principal⟩
  dsimp only
  rw [principal, shared]
  exact near.grants _ _ held.attributes

omit near in
theorem dispatch_inStep
    (resources : Resource.EqUpToAttributes l.attributes l.memory resource resource') :
    Step.InStep l (fun _ _ => True) (dispatch resource) (dispatch resource') := by
  intro s s' held
  have exchange := held.proceeding.exchange
  have request : s'.exchange.request = s.exchange.request := congrArg Draft.request exchange.draft
  have caller : Caller.EqUpToAttributes l.attributes l.memory s.caller s'.caller :=
    ⟨held.attributes, held.proceeding.custody.memory⟩
  have answer : (resource'.handle s'.exchange.request s'.caller).1 =
      (resource.handle s.exchange.request s.caller).1 := by
    rw [request]
    exact resources.answer _ caller
  have left := resources.caller s.exchange.request caller
  have remembered := held.proceeding.remember left.memory
  have noted := l.noted (.dispatched held.attributes s.exchange.request)
  cases service : (resource.handle s.exchange.request s.caller).1 with
  | halted h =>
    have service' := answer.trans service
    have kept := remembered.redraft fun d => { d with request := d.request.copy }
    rw [dispatch_of_halted resource service, dispatch_of_halted resource' service', request]
    constructor
    case ending => exact .halted h
    case state => exact ⟨kept, left.attributes, held.principal⟩
    case journal => exact noted
  | settled response =>
    have service' := answer.trans service
    have kept := remembered.redraft fun d => { d with request := d.request.copy, response }
    rw [dispatch_of_settled resource service, dispatch_of_settled resource' service', request]
    constructor
    case ending => exact .settled trivial
    case state => exact ⟨kept, left.attributes, held.principal⟩
    case journal => exact noted

theorem settleSecuring_inStep (a : Answer) :
    Step.InStep l Eq (g.settleSecuring t a) (g'.settleSecuring t a) := by
  unfold settleSecuring
  split
  · exact release_inStep .success
  · exact release_inStep .success
  · exact (say_inStep near t .warn _).seq (.pure rfl)
  · exact (say_inStep near t .error _).seq (refuse_inStep near _)
  · exact (say_inStep near t .warn _).seq (refuse_inStep near _)

variable (resources : Resource.EqUpToAttributes l.attributes l.memory resource resource')

include resources

theorem serveAuthenticated_inStep :
    Step.InStep l Eq (g.serveAuthenticated t resource) (g'.serveAuthenticated t resource') := by
  have granted := grant_inStep near
  have said := say_inStep near t .debug "dispatching request"
  have dispatched := dispatch_inStep resources
  have secured := secure_inStep near
  unfold serveAuthenticated
  refine granted.seq (said.seq (dispatched.seq ?_))
  refine secured.bind_eq ?_
  intro a
  exact settleSecuring_inStep near t a

theorem settleValidation_inStep (v : Option Verdict) :
    Step.InStep l Eq (g.settleValidation t resource v) (g'.settleValidation t resource' v) := by
  unfold settleValidation
  split
  · exact serveAuthenticated_inStep near t resources
  · exact release_inStep .continued
  · exact release_inStep .continued
  · exact .pure rfl
  · exact (say_inStep near t .error _).seq (refuse_inStep near _)

/-- What comes after a validation that went in step. -/
theorem authenticate_inStep {s s' : Scene ω}
    (validated : (g.validate s).InStep l.watch (Scene.EqUpTo l) Eq (g'.validate s')) :
    (g.authenticate t resource s).InStep l.watch (Scene.EqUpTo l) Eq
      (g'.authenticate t resource' s') := by
  refine validated.bind ?_
  intro a a' u u' same held
  cases same
  cases a with
  | error e =>
    have said := say_inStep near t .warn ("request validation failed: " ++ e.message)
    have refused := refuse_inStep near e
    exact said.seq refused u u' held
  | ok v =>
    have said := say_inStep near t .debug ("validate_request settled: " ++ Verdict.describe v)
    have served := settleValidation_inStep near t resources v
    exact said.seq served u u' held

omit near resources in
/-- Runs that went in step, and were cleaned in step, close in the same way. -/
theorem Closing.inStep {s s' : Scene ω} {principal principal' : Option String}
    {outcome outcome' : Audit.Outcome} {ending ending' : Ending Response}
    {same : Except AuthError Unit → Except AuthError Unit → Prop}
    (closing : g.Closing t resource s principal outcome ending)
    (closing' : g'.Closing t resource' s' principal' outcome' ending')
    (authenticated : (g.authenticate t resource s).InStep l.watch (Scene.EqUpTo l) Eq
      (g'.authenticate t resource' s'))
    (cleaned : (g.cleanup t resource s).InStep l.watch (Scene.EqUpTo l) same
      (g'.cleanup t resource' s'))
    (named : ∀ a a', l.attributes a a' → a'.principal = a.principal) :
    principal' = principal ∧ outcome' = outcome ∧ ending' = ending := by
  have own := cleaned.state.principal
  have left := named _ _ cleaned.state.attributes
  cases closing with
  | abandoned halt =>
    have halt' := authenticated.ending.of_halted halt
    cases closing' with
    | abandoned halted =>
      rw [halt'] at halted
      cases halted
      exact ⟨own, rfl, rfl⟩
    | uncleaned settled | finished settled =>
      rw [halt'] at settled
      cases settled
  | uncleaned settled cleaning =>
    obtain ⟨_, settled', rfl⟩ := authenticated.ending.of_settled settled
    have cleaning' := cleaned.ending.of_halted cleaning
    cases closing' with
    | abandoned halted =>
      rw [settled'] at halted
      cases halted
    | uncleaned _ halted =>
      rw [cleaning'] at halted
      cases halted
      exact ⟨own, rfl, rfl⟩
    | finished _ done =>
      rw [cleaning'] at done
      cases done
  | finished settled cleaning =>
    obtain ⟨_, settled', rfl⟩ := authenticated.ending.of_settled settled
    obtain ⟨_, cleaning', -⟩ := cleaned.ending.of_settled cleaning
    obtain ⟨rfl, rfl, rfl⟩ := closing'.of_settled settled' cleaning'
    exact ⟨left, rfl, rfl⟩

end Gate

end Gatekeeper
