import Gatekeeper.Gate.Layer
import Gatekeeper.Proofs.Gate.Attributes

namespace Gatekeeper

open Http (Request Response)

variable {ω : Type}

namespace Resource

/-- The resource leaves the attributes as it finds them. -/
def OnlyReads (resource : Resource ω) : Prop :=
  ∀ request c, (resource.handle request c).2.attributes = c.attributes

/-- The two differ only in the attributes they leave. -/
def AnswersLike (resource' resource : Resource ω) : Prop :=
  ∀ request c, (resource'.handle request c).1 = (resource.handle request c).1 ∧
    (resource'.handle request c).2.memory = (resource.handle request c).2.memory

/-- The service that gives the resource the attributes it finds beside a request. -/
def toService (resource : Resource ω) : Service ω where
  call request memory :=
    let r := resource.handle (Gate.strip request) ⟨request.extensions.attributes.getD {}, memory⟩
    (r.1, r.2.memory)

end Resource

/-- The request with these attributes beside it, among what else there is. -/
def Gate.bearing (attributes : Attributes) (request : Request) : Request :=
  { request with extensions := { request.extensions with attributes := some attributes } }

/-- With these attributes beside the request the service does what the resource does that is given
them apart from it. -/
def Service.StandsFor (service : Service ω) (resource : Resource ω) (attributes : Attributes)
    (request : Request) : Prop :=
  ∀ memory, service.call (Gate.bearing attributes request) memory =
    ((resource.handle request ⟨attributes, memory⟩).1,
      (resource.handle request ⟨attributes, memory⟩).2.memory)

namespace Service.StandsFor

variable {service : Service ω} {resource resource' : Resource ω} {attributes : Attributes}
  {request : Request}

theorem handle_eq (stands : service.StandsFor resource attributes request)
    (reads : resource.OnlyReads) (memory : ω) :
    service.toResource.handle request ⟨attributes, memory⟩ =
      resource.handle request ⟨attributes, memory⟩ := by
  have called : service.toResource.handle request ⟨attributes, memory⟩ =
      ((service.call (Gate.bearing attributes request) memory).1,
        ⟨attributes, (service.call (Gate.bearing attributes request) memory).2⟩) := rfl
  have kept := reads request ⟨attributes, memory⟩
  rw [called, stands memory]
  exact Prod.ext rfl (congrArg (Caller.mk · _) kept.symm)

theorem of_answersLike (stands : service.StandsFor resource' attributes request)
    (alike : resource'.AnswersLike resource) : service.StandsFor resource attributes request := by
  intro memory
  obtain ⟨answer, left⟩ := alike request ⟨attributes, memory⟩
  rw [stands memory, answer, left]

end Service.StandsFor

/-- A resource that looks for its attributes nowhere else can be called with what stands beside the
request. -/
theorem Resource.toService_standsFor {resource : Resource ω} {request : Request}
    (blind : ∀ c, resource.handle (Gate.strip request) c = resource.handle request c)
    (attributes : Attributes) : resource.toService.StandsFor resource attributes request := by
  intro memory
  have called : resource.toService.call (Gate.bearing attributes request) memory =
      ((resource.handle (Gate.strip request) ⟨attributes, memory⟩).1,
        (resource.handle (Gate.strip request) ⟨attributes, memory⟩).2.memory) := rfl
  rw [called, blind]

namespace Gate

variable (g : Gate ω) {resource resource' : Resource ω}

theorem dispatch_congr {s : Scene ω}
    (same : resource'.handle s.exchange.request s.caller =
      resource.handle s.exchange.request s.caller) :
    dispatch resource' s = dispatch resource s := by
  cases service : (resource.handle s.exchange.request s.caller).1 with
  | halted h =>
    rw [dispatch_of_halted resource service, dispatch_of_halted resource' (same ▸ service), same]
  | settled response =>
    rw [dispatch_of_settled resource service, dispatch_of_settled resource' (same ▸ service), same]

theorem authenticate_congr (t : Ticket) {s : Scene ω}
    (same : g.Authenticates s → g.served resource' s = g.served resource s) :
    g.authenticate t resource' s = g.authenticate t resource s := by
  unfold authenticate
  cases validation : (g.validate s).ending with
  | halted h => rw [Act.bind_of_halted validation, Act.bind_of_halted validation]
  | settled a =>
    rw [Act.settled_bind validation, Act.settled_bind validation]
    match a with
    | .error e => rfl
    | .ok (some .success) =>
      have enter (resource : Resource ω) :
          g.serveAuthenticated t resource (g.validate s).state =
            ((dispatch resource >>= fun _ => g.secure >>= g.settleSecuring t) (g.admitted s)).after
              [.logged ((g.logger.forRequest t.id).record .debug "dispatching request")] := rfl
      have served := dispatch_congr (same validation)
      simp only [say_bind, settleValidation, enter, Act.bind_apply (dispatch _), served]
    | .ok (some .sendSuccess) | .ok (some .sendContinue) | .ok (some .sendFailure)
    | .ok (some .failure) | .ok none => rfl

theorem process_congr (fresh : String) (request : Request) (caller : Caller ω)
    (same : g.Authenticates (opening fresh request caller) →
      g.served resource' (opening fresh request caller) =
        g.served resource (opening fresh request caller)) :
    g.process fresh resource' request caller = g.process fresh resource request caller := by
  have start := g.authenticate_congr (issue fresh request caller) same
  have run : g.run (issue fresh request caller) resource' (opening fresh request caller) =
      g.run (issue fresh request caller) resource (opening fresh request caller) := by
    unfold Gate.run
    rw [Act.attempt_bind, Act.attempt_bind, start]
  rw [process_apply, process_apply, run]

/-- The caller that the layer makes of a request. -/
def callerOf (request : Request) (memory : ω) : Caller ω :=
  ⟨request.extensions.attributes.getD {}, memory⟩

theorem layer_eq {fresh : String} {service : Service ω} {request : Request} {memory : ω}
    (reads : resource.OnlyReads)
    (stands : ∀ a q, .dispatched a q ∈
      (g.process fresh resource (strip request) (callerOf request memory)).journal →
        service.StandsFor resource a q) :
    let filtered := g.process fresh resource (strip request) (callerOf request memory)
    g.layer fresh service request memory =
      { ending := filtered.ending.map (attach filtered.state.attributes)
        state := filtered.state.memory
        journal := filtered.journal } := by
  intro filtered
  have same : g.process fresh service.toResource (strip request) (callerOf request memory) =
      filtered := by
    apply g.process_congr
    intro success
    have dispatched := (g.mem_dispatched_iff resource).mpr ⟨success, rfl⟩
    exact (stands _ _ dispatched).handle_eq reads _
  have whole : g.layer fresh service request memory =
      let r := g.process fresh service.toResource (strip request) (callerOf request memory)
      { ending := r.ending.map (attach r.state.attributes)
        state := r.state.memory
        journal := r.journal } := rfl
  rw [whole, same]

/-- Whatever the service does, the response bears the attributes that the request was dispatched
with, or those of the caller with an id, and the request is audited under their principal. -/
theorem layer_bears (fresh : String) (service : Service ω) (request : Request) (memory : ω) :
    let layered := g.layer fresh service request memory
    ∃ left : Attributes,
      (∀ a q, .dispatched a q ∈ layered.journal → a = left) ∧
      ((∀ a q, .dispatched a q ∉ layered.journal) →
        left = (request.extensions.attributes.getD {}).assignRequestId fresh) ∧
      ∀ response, layered.ending = .settled response →
        response.extensions.attributes = some left ∧
        ∃ e, layered.journal.filter Event.isAudit = [.audited e] ∧
          e.principal = left.principal := by
  intro layered
  let caller := callerOf request memory
  let s := opening fresh (strip request) caller
  let r := g.process fresh service.toResource (strip request) caller
  obtain ⟨granted, kept⟩ :=
    g.process_attributes service.toResource fresh (strip request) caller
  refine ⟨r.state.attributes, ?_, ?_, ?_⟩
  · intro a q dispatched
    obtain ⟨success, same⟩ := (g.mem_dispatched_iff service.toResource).mp dispatched
    have found : a = (g.admitted s).attributes := by
      injection same
    exact found.trans (granted success).symm
  · intro undispatched
    have denied : ¬ g.Authenticates s := by
      intro success
      have dispatched := (g.mem_dispatched_iff service.toResource).mpr ⟨success, rfl⟩
      exact undispatched _ _ dispatched
    exact kept denied
  · intro response settled
    have ending : r.ending.map (attach r.state.attributes) = .settled response := settled
    cases finished : r.ending with
    | halted h =>
      rw [finished] at ending
      cases ending
    | settled answer =>
      rw [finished] at ending
      cases ending
      obtain ⟨settlement, _, -, -, -, audited⟩ := finished_of_process finished
      have principal := congrArg Attributes.principal
        (g.process_state_attributes service.toResource fresh (strip request) caller)
      exact ⟨rfl, _, audited, principal.symm⟩

/-- Around a service that stands for a resource where it is called, the layer does what the gate
does around the resource, for a caller with the attributes found beside the request, and with the
request without them. It makes the same calls, audit and log, and it ends alike, but that the
response bears the attributes which the gate leaves to its caller. Had the resource written to its
attributes, the layer would have done the same, and whatever the service does, the response bears
what the request was dispatched with. -/
theorem layer_agrees_with_process (g : Gate ω) (fresh : String) (resource : Resource ω)
    (service : Service ω) (request : Request) (memory : ω) (reads : resource.OnlyReads)
    (stands : ∀ a q, .dispatched a q ∈
      (g.process fresh resource (strip request) (callerOf request memory)).journal →
        service.StandsFor resource a q) :
    let filtered := g.process fresh resource (strip request) (callerOf request memory)
    let layered := g.layer fresh service request memory
    layered =
      { ending := filtered.ending.map (attach filtered.state.attributes)
        state := filtered.state.memory
        journal := filtered.journal } ∧
    (∀ (resource' : Resource ω) (service' : Service ω), resource'.AnswersLike resource →
      (∀ a q, .dispatched a q ∈ filtered.journal → service'.StandsFor resource' a q) →
      g.layer fresh service' request memory = layered) ∧
    ∀ other : Service ω, let run := g.layer fresh other request memory
      ∃ left : Attributes,
        (∀ a q, .dispatched a q ∈ run.journal → a = left) ∧
        ((∀ a q, .dispatched a q ∉ run.journal) →
          left = (request.extensions.attributes.getD {}).assignRequestId fresh) ∧
        ∀ response, run.ending = .settled response →
          response.extensions.attributes = some left ∧
          ∃ e, run.journal.filter Event.isAudit = [.audited e] ∧ e.principal = left.principal := by
  intro filtered layered
  have whole := g.layer_eq reads stands
  refine ⟨whole, ?_, ?_⟩
  · intro resource' service' alike stands'
    have again := g.layer_eq reads fun a q dispatched =>
      (stands' a q dispatched).of_answersLike alike
    exact again.trans whole.symm
  · intro other
    exact g.layer_bears fresh other request memory

/-- The attributes of an earlier run come with the request, and those of this run go with the
response. -/
theorem layer_agrees_with_process_of_welcome :
    let gate : Gate Audit.Ledger :=
      { sink := .recording
        responder := Negotiator.toResponder {}
        authenticator := Chain.toAuthenticator { modules := [admitting "alice"] } }
    let welcome : Resource Audit.Ledger :=
      ⟨fun _ c => (.settled (if c.attributes.principal = some "alice" then {} else
        .bare .unauthorized), c)⟩
    let earlier : Attributes := { requestId := some "5", principal := some "bob" }
    let granted : Attributes :=
      { earlier with principal := some "alice", authContext := some ["admitting"] }
    let request : Request :=
      { extensions := { values := [("hop", "2")], attributes := some earlier } }
    let filtered := gate.process "1" welcome (strip request) (callerOf request {})
    let layered := gate.layer "1" welcome.toService request {}
    welcome.OnlyReads ∧
    (∀ a q, .dispatched a q ∈ filtered.journal → welcome.toService.StandsFor welcome a q) ∧
    (filtered.journal.filter Event.isDispatch).length = 1 ∧
    layered =
      { ending := filtered.ending.map (attach filtered.state.attributes)
        state := filtered.state.memory
        journal := filtered.journal } ∧
    layered.ending = .settled { extensions := { attributes := some granted } } := by
  intro gate welcome earlier granted request filtered layered
  have reads : welcome.OnlyReads := fun _ _ => rfl
  have stands (a : Attributes) (q : Request) : welcome.toService.StandsFor welcome a q :=
    Resource.toService_standsFor (fun _ => rfl) a
  obtain ⟨agrees, -⟩ := layer_agrees_with_process gate "1" welcome welcome.toService request {}
    reads fun a q _ => stands a q
  exact ⟨reads, fun a q _ => stands a q, rfl, agrees, rfl⟩

end Gate

end Gatekeeper
