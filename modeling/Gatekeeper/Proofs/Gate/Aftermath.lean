import Gatekeeper.Proofs.Chain.Paired
import Gatekeeper.Proofs.Gate.Conduct

namespace Gatekeeper

open Http (Request Response)

variable {ω : Type}

/-- The two differ only in how they clean. -/
structure AuthModule.CleansApart (m m' : AuthModule ω) : Prop where
  id : m'.id = m.id
  validate : m'.validate = m.validate
  secure : m'.secure = m.secure

/-- The cleaning of the module comes to an end, be it in a failure or a crash. -/
def AuthModule.Cleans (m : AuthModule ω) : Prop :=
  ∀ x held, (m.clean x held).result ≠ .halted .pending

/-- The sink comes back, whether or not it takes the event. -/
def Audit.Sink.Returns (s : Audit.Sink ω) : Prop :=
  ∀ e memory crash, (s.receive e memory).answer ≠ .error crash

namespace AuthModule

theorem CleansApart.decides {m m' : AuthModule ω} (apart : m.CleansApart m') :
    m.SameDecisions m' where
  validation place service := by
    have visit : m'.validateAt place service = m.validateAt place service := by
      unfold validateAt engage
      rw [apart.validate, apart.id]
    exact decide_congr apart.id (congrArg Act.guarded visit) .validateRequest
  securing place service := by
    have visit : m'.secureAt place service = m.secureAt place service := by
      unfold secureAt engage
      rw [apart.secure, apart.id]
    exact decide_congr apart.id (congrArg Act.guarded visit) .secureResponse

theorem attemptCleaning_settles {m : AuthModule ω} (cleans : m.Cleans) (place : Nat)
    (p : Proceeding ω) : ∃ a, (m.attemptCleaning place p).ending = .settled a := by
  obtain ⟨a, contained⟩ := Ending.contained_settles (cleans p.exchange p.toCustody)
  have guard : ((m.cleanAt place).guarded p).ending = .settled a := by
    rw [Act.guarded_apply]
    exact contained
  unfold attemptCleaning
  rw [Act.settled_bind guard]
  cases a with
  | ok _ => exact ⟨_, rfl⟩
  | error e => exact ⟨_, rfl⟩

end AuthModule

namespace Chain

theorem cleanFrom_settles {ms : List (AuthModule ω)} (cleans : ∀ m ∈ ms, m.Cleans) (place : Nat)
    (p : Proceeding ω) : ∃ a, (cleanFrom place ms p).ending = .settled a := by
  induction ms generalizing place p with
  | nil => exact ⟨_, rfl⟩
  | cons m ms ih =>
    obtain ⟨here, others⟩ := List.forall_mem_cons.mp cleans
    obtain ⟨first, settled⟩ := AuthModule.attemptCleaning_settles here place p
    obtain ⟨rest, settles⟩ := ih others (place + 1) (m.attemptCleaning place p).state
    unfold cleanFrom
    rw [Act.settled_bind settled, Run.after_ending, Act.settled_bind settles]
    cases first with
    | ok _ => exact ⟨_, rfl⟩
    | error e => exact ⟨_, rfl⟩

/-- Chains whose modules differ only in how they clean differ only in how they clean. -/
theorem toAuthenticator_of_cleansApart {c c' : Chain ω}
    (apart : c.Paired AuthModule.CleansApart c') :
    c'.toAuthenticator = { c.toAuthenticator with clean := c'.clean } := by
  have decides : c.Paired AuthModule.SameDecisions c' := apart.imp fun _ _ apart => apart.decides
  have validate : c'.validate = c.validate := funext (validate_of_sameDecisions decides)
  have secure : c'.secure = c.secure := funext (secure_of_sameDecisions decides)
  have ids : c'.moduleIds = c.moduleIds := apart.moduleIds fun _ _ apart => apart.id
  rw [toAuthenticator, toAuthenticator, ids, validate, secure]

end Chain

/-- What a run has come to when its cleaning begins: the calls so far, the proceeding that is to be
cleaned, the response, the attributes, and what the audit would be told. -/
structure Upshot (ω : Type) where
  calls : List Event
  left : Proceeding ω
  response : Response
  attributes : Attributes
  event : Audit.Event

/-- From this upshot on the run does nothing but clean, with these deeds of the chain, and audit.
The audit learns of what was noted in cleaning, and of no more. -/
structure Upshot.Stands (u : Upshot ω) (c : Chain ω) (cleaned : List (Deed ω))
    (r : Run (Caller ω) Event Response) : Prop where
  enacts : Enacts u.left (c.clean u.left) cleaned
  cleaning : ∀ d ∈ cleaned, d.occasion = .cleaning ∧ d.IsOf 0 c.candidates
  ending : r.ending = .settled u.response
  attributes : r.state.attributes = u.attributes
  calls : Event.calls r.journal =
    u.calls ++ .cleaning u.left.exchange u.left.client :: cleaned.map Deed.event ++
      [.audited { u.event with entries := u.event.entries ++ cleaned.flatMap (·.visit.notes) }]

namespace Gate

variable (g : Gate ω) (c : Chain ω) (t : Ticket) (resource : Resource ω)

def upshot (s : Scene ω) (settlement : Settlement) : Upshot ω :=
  let r := g.authenticate t resource s
  { calls := Event.calls r.journal
    left := r.state.toProceeding
    response := settlement.response
    attributes := r.state.attributes
    event := r.state.report t r.state.attributes.principal settlement.outcome }

variable {c}

theorem cleanup_settles (cleans : ∀ m ∈ c.candidates, m.Cleans) (s : Scene ω) :
    ∃ a, ((g.fronting c).cleanup t resource s).ending = .settled a := by
  obtain ⟨a, settled⟩ :=
    Chain.cleanFrom_settles cleans 0 ((g.fronting c).authenticate t resource s).state.toProceeding
  refine ⟨a, ?_⟩
  rw [cleanup, clean, perform_apply]
  exact congrArg Ending.contained settled

/-- If its cleaning comes to an end and its sink returns, a run ends as it was going to. -/
theorem upshot_stands (cleans : ∀ m ∈ c.candidates, m.Cleans) (returns : g.sink.Returns)
    (fresh : String) (request : Request) (caller : Caller ω) {settlement : Settlement}
    (settled : ((g.fronting c).authenticate (issue fresh request caller) resource
      (opening fresh request caller)).ending = .settled settlement) :
    ∃ cleaned,
      ((g.fronting c).upshot (issue fresh request caller) resource (opening fresh request caller)
        settlement).Stands c cleaned ((g.fronting c).process fresh resource request caller) := by
  let t := issue fresh request caller
  let s := opening fresh request caller
  let left := ((g.fronting c).authenticate t resource s).state
  obtain ⟨cleaned, enacts, cleaning⟩ := c.enacts_clean left.toProceeding
  obtain ⟨done, cleaned_up⟩ := g.cleanup_settles t resource cleans s
  obtain ⟨principal, outcome, ending, closing, calls, kept, ends⟩ :=
    (g.fronting c).process_reports resource fresh request caller
  have same : left.Keeps ((g.fronting c).cleanup t resource s).state := perform_keeps _ _ _
  obtain ⟨rfl, rfl, rfl⟩ := closing.of_settled settled cleaned_up
  have report (principal : Option String) (outcome : Audit.Outcome) :
      ((g.fronting c).cleanup t resource s).state.report t principal outcome =
        { left.report t principal outcome with
          entries := left.exchange.trail ++ cleaned.flatMap (·.visit.notes) } := by
    rw [Scene.report, cleanup_trail enacts fun d done => (cleaning d done).1]
    rfl
  refine ⟨cleaned, enacts, cleaning, ?_, ?_, ?_⟩
  · split at ends
    · exact ends
    · next crashed => exact (returns _ _ _ crashed).elim
  · rw [kept]
    exact same.attributes
  · change Event.calls _ = Event.calls ((g.fronting c).authenticate t resource s).journal ++
      _ :: _ ++ [_]
    rw [calls]
    dsimp only
    rw [cleanup_calls enacts, report, same.attributes]
    rfl

variable {g t resource} in
theorem authenticate_of_cleansApart {c' : Chain ω} (apart : c.Paired AuthModule.CleansApart c')
    (sink : Audit.Sink ω) :
    ({ g with sink }.fronting c').authenticate t resource =
      (g.fronting c).authenticate t resource := by
  rw [fronting, Chain.toAuthenticator_of_cleansApart apart]
  rfl

/-- Neither how the modules clean nor what becomes of the audit shows in a run: of two gates that
differ in nothing else both finish from one and the same upshot. -/
theorem process_conceals_aftermath {c' : Chain ω} (apart : c.Paired AuthModule.CleansApart c')
    (cleans : ∀ m ∈ c.candidates, m.Cleans) (cleans' : ∀ m ∈ c'.candidates, m.Cleans)
    (sink : Audit.Sink ω) (returns : g.sink.Returns) (returns' : sink.Returns) (fresh : String)
    (request : Request) (caller : Caller ω)
    (goesOn : ¬ (g.fronting c).Halts resource (opening fresh request caller)) :
    ∃ (u : Upshot ω) (cleaned cleaned' : List (Deed ω)),
      u.calls.filter Event.isClosing = [] ∧
      u.Stands c cleaned ((g.fronting c).process fresh resource request caller) ∧
      u.Stands c' cleaned'
        (({ g with sink }.fronting c').process fresh resource request caller) := by
  let t := issue fresh request caller
  let s := opening fresh request caller
  have same : ({ g with sink }.fronting c').authenticate t resource =
      (g.fronting c).authenticate t resource := authenticate_of_cleansApart apart sink
  obtain ⟨settlement, settled⟩ := settles_of_not_halts t goesOn
  have settled' : (({ g with sink }.fronting c').authenticate t resource s).ending =
      .settled settlement := by
    rw [same]
    exact settled
  obtain ⟨cleaned, stands⟩ := g.upshot_stands resource cleans returns fresh request caller settled
  obtain ⟨cleaned', stands'⟩ :=
    upshot_stands { g with sink } resource cleans' returns' fresh request caller settled'
  refine ⟨_, cleaned, cleaned', (g.fronting c).closing_of_authenticate t resource s, stands, ?_⟩
  have upshot : ({ g with sink }.fronting c').upshot t resource s settlement =
      (g.fronting c).upshot t resource s settlement := by
    rw [Gate.upshot, Gate.upshot, same]
  rw [← upshot]
  exact stands'

/-- A module that clears everything and crashes over it, behind a sink that takes no event, shows as
little as one that leaves everything as it is. -/
theorem process_conceals_aftermath_of_crash :
    let crashing : AuthModule Audit.Ledger :=
      { admitting "alice" with
        clean := fun x _ =>
          { result := .halted (.crashed (.text "cache poisoned"))
            draft := { x.toDraft with response := .bare .unauthorized, shared := [] }
            notes := [⟨"admitting", .secureResponse, .failed "cache poisoned"⟩]
            kept := { memory := {} } } }
    let c : Chain Audit.Ledger := { modules := [admitting "alice"] }
    let c' : Chain Audit.Ledger := { modules := [crashing] }
    let refusing : Audit.Sink Audit.Ledger :=
      ⟨fun _ memory => { answer := .ok (.error ⟨"disk full"⟩), memory }⟩
    let g : Gate Audit.Ledger :=
      { sink := .recording
        responder := Negotiator.toResponder {}
        authenticator := Chain.toAuthenticator {} }
    let resource : Resource Audit.Ledger := ⟨fun _ c => (.settled {}, c)⟩
    let caller : Caller Audit.Ledger := ⟨{}, {}⟩
    c.Paired AuthModule.CleansApart c' ∧ ¬ (g.fronting c).Halts resource (opening "1" {} caller) ∧
    ∃ (u : Upshot Audit.Ledger) (cleaned cleaned' : List (Deed Audit.Ledger)),
      u.Stands c cleaned ((g.fronting c).process "1" resource {} caller) ∧
      u.Stands c' cleaned'
        (({ g with sink := refusing }.fronting c').process "1" resource {} caller) := by
  intro crashing c c' refusing g resource caller
  have apart : c.Paired AuthModule.CleansApart c' := ⟨.none, .cons ⟨rfl, rfl, rfl⟩ .nil, rfl⟩
  have cleans : ∀ m ∈ c.candidates, m.Cleans := by
    intro m candidate x held pending
    rw [List.mem_singleton.mp candidate] at pending
    cases pending
  have cleans' : ∀ m ∈ c'.candidates, m.Cleans := by
    intro m candidate x held pending
    rw [List.mem_singleton.mp candidate] at pending
    cases pending
  have returns : g.sink.Returns := by
    intro e memory crash crashed
    cases crashed
  have returns' : refusing.Returns := by
    intro e memory crash crashed
    cases crashed
  have goesOn : ¬ (g.fronting c).Halts resource (opening "1" {} caller) := by
    intro halts
    have uninterrupted : ¬ (g.fronting c).Interrupted (issue "1" {} caller) resource
        (opening "1" {} caller) := not_interrupted rfl rfl
    exact uninterrupted (.inl halts)
  obtain ⟨u, cleaned, cleaned', -, stands, stands'⟩ :=
    g.process_conceals_aftermath resource apart cleans cleans' refusing returns returns' "1" {}
      caller goesOn
  exact ⟨apart, goesOn, u, cleaned, cleaned', stands, stands'⟩

end Gate

end Gatekeeper
