import Gatekeeper.Proofs.Gate.Naming

namespace Gatekeeper

open Http (Request)

variable {ω : Type}

namespace Gate

variable (g : Gate ω) (resource : Resource ω)

theorem authenticates_iff (s : Scene ω) :
    g.Authenticates s ↔
      (g.authenticator.validate g.service s.toProceeding).ending =
        .settled (.ok (some .success)) := by
  rw [Authenticates, validate_ending, Ending.contained_eq_settled_ok_iff]

theorem admitted_toProceeding (s : Scene ω) :
    (g.admitted s).toProceeding = (g.authenticator.validate g.service s.toProceeding).state :=
  g.validate_toProceeding s

theorem admitted_attributes (s : Scene ω) :
    (g.admitted s).attributes =
      s.attributes.authenticate
        (g.authenticator.validate g.service s.toProceeding).state.resolvePrincipal
        g.authenticator.moduleIds
        (g.authenticator.validate g.service s.toProceeding).state.exchange.shared := by
  rw [← validate_toProceeding]
  have kept : (g.validate s).state.attributes = s.attributes := (perform_keeps _ _ s).attributes
  rw [← kept]
  rfl

/-- Only the resource writes to the attributes once the request is dispatched. -/
theorem cleanup_attributes (t : Ticket) (s : Scene ω) :
    (g.Authenticates s →
      (g.cleanup t resource s).state.attributes = (g.served resource s).2.attributes) ∧
    (¬ g.Authenticates s → (g.cleanup t resource s).state.attributes = s.attributes) := by
  obtain ⟨departed, turnedAway⟩ := (g.authenticate_course t resource s).keeps
  have cleaned : (g.authenticate t resource s).state.Keeps (g.cleanup t resource s).state :=
    perform_keeps _ _ _
  constructor
  · intro success
    exact ((departed success).trans cleaned).attributes
  · intro denied
    exact ((turnedAway denied).trans cleaned).attributes

/-- Cleaning is the last that changes them. -/
theorem process_state_attributes (fresh : String) (request : Request) (caller : Caller ω) :
    (g.process fresh resource request caller).state.attributes =
      (g.cleanup (issue fresh request caller) resource
        (opening fresh request caller)).state.attributes := by
  obtain ⟨_, _, _, -, -, state, -⟩ := g.process_reports resource fresh request caller
  exact congrArg Caller.attributes state

theorem process_attributes (fresh : String) (request : Request) (caller : Caller ω) :
    let s := opening fresh request caller
    let left := (g.process fresh resource request caller).state.attributes
    (g.Authenticates s → left = (g.served resource s).2.attributes) ∧
    (¬ g.Authenticates s → left = s.attributes) := by
  intro s left
  have same : left = (g.cleanup (issue fresh request caller) resource s).state.attributes :=
    g.process_state_attributes resource fresh request caller
  rw [same]
  exact g.cleanup_attributes resource _ s

/-- The attributes that a run leaves are the caller's own with an id, unless its validation
succeeds. Then the resource finds the attributes of this validation, with the values that are
shared when it settles, and what the resource leaves of them is left in the end, however the gate
goes on. -/
theorem process_frames_attributes (fresh : String) (request : Request) (caller : Caller ω) :
    let id := caller.attributes.requestId.getD fresh
    let start : Proceeding ω := { memory := caller.memory, exchange := .start id request }
    let validation := g.authenticator.validate g.service start
    let p := validation.state
    let granted : Attributes :=
      { requestId := some id
        principal := p.exchange.publishedName?.or p.client.firstName?
        authContext := some g.authenticator.moduleIds
        published := p.exchange.shared }
    let left (g : Gate ω) := (g.process fresh resource request caller).state.attributes
    (validation.ending ≠ .settled (.ok (some .success)) →
      left g = { caller.attributes with requestId := some id }) ∧
    (validation.ending = .settled (.ok (some .success)) →
      (g.process fresh resource request caller).journal.filter Event.isDispatch =
        [.dispatched granted p.exchange.request] ∧
      left g = (resource.handle p.exchange.request ⟨granted, p.memory⟩).2.attributes) ∧
    ∀ secure clean responder sink,
      left { g with responder, sink, authenticator := { g.authenticator with secure, clean } } =
        left g := by
  intro id start validation p granted left
  let s := opening fresh request caller
  have found : (g.admitted s).attributes = granted := by
    rw [admitted_attributes, Proceeding.resolvePrincipal_eq]
    rfl
  have sent : (g.admitted s).toProceeding = p := g.admitted_toProceeding s
  have served : (g.served resource s).2 =
      (resource.handle p.exchange.request ⟨granted, p.memory⟩).2 := by
    rw [Gate.served, Scene.caller, found, sent]
  obtain ⟨served_ends, denied_ends⟩ := g.process_attributes resource fresh request caller
  refine ⟨?_, ?_, ?_⟩
  · intro denied
    have unauthenticated : ¬ g.Authenticates s := mt (g.authenticates_iff s).mp denied
    exact denied_ends unauthenticated
  · intro success
    have authenticates := (g.authenticates_iff s).mpr success
    have dispatched := (g.filter_dispatch resource fresh request caller).1 authenticates
    constructor
    · rw [dispatched, dispatching, found, sent]
    · rw [← served]
      exact served_ends authenticates
  · intro secure clean responder sink
    let other : Gate ω :=
      { g with responder, sink, authenticator := { g.authenticator with secure, clean } }
    obtain ⟨served_ends', denied_ends'⟩ := other.process_attributes resource fresh request caller
    by_cases success : validation.ending = .settled (.ok (some .success))
    · have own := served_ends ((g.authenticates_iff s).mpr success)
      have others := served_ends' ((other.authenticates_iff s).mpr success)
      exact others.trans own.symm
    · have own := denied_ends (mt (g.authenticates_iff s).mp success)
      have others := denied_ends' (mt (other.authenticates_iff s).mp success)
      exact others.trans own.symm

end Gate

end Gatekeeper
