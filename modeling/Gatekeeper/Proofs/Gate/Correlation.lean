import Gatekeeper.Proofs.Gate.Attributes
import Gatekeeper.Proofs.Upholding

namespace Gatekeeper

open Act (Upholds)
open Http (Request Response)

variable {ω α : Type}

/-- The record names this request and no other. -/
def Log.Record.Identifies (r : Log.Record) (id : String) : Prop :=
  ∀ v, ("request_id", v) ∈ r.fields ↔ v = id

def Call.exchange : Call → Exchange
  | validate x _ _ | secure x _ | clean x _ => x

/-- The event belongs to this request; if it is a log record, it lies in this span. -/
def Event.Identifies (id : String) (span : Option String) : Event → Prop
  | opened _ => False
  | logged r => r.Identifies id ∧ r.span = span
  | called _ _ call => call.exchange.id = id
  | validating x _ _ | securing x _ | refused x _ | cleaning x _ => x.id = id
  | dispatched attributes _ => attributes.requestId = some id
  | audited event => event.requestId = id

theorem Event.Identifies.within {id : String} {e : Event} (h : e.Identifies id none)
    (span : String) : (e.within span).Identifies id (some span) := by
  cases e with
  | logged r =>
    obtain ⟨identifies, outside⟩ := h
    have inside : (r.within span).span = some span := by simp [Log.Record.within, outside]
    exact ⟨identifies, inside⟩
  | opened | called | validating | dispatched | securing | refused | cleaning | audited => exact h

namespace Audit.Sink

/-- A record that the sink logs itself when it is handed an event of this request. -/
def Writes (s : Sink ω) (id : String) (r : Log.Record) : Prop :=
  ∃ event memory, event.requestId = id ∧ r ∈ (s.receive event memory).logs

/-- The sink logs nothing, or the one record that tells of the event. -/
def Plain (s : Sink ω) : Prop :=
  ∀ event memory, ∀ r ∈ (s.receive event memory).logs, r = eventRecord event

theorem plain_recording : recording.Plain := by
  intro event memory r member
  cases member

theorem plain_logging : (logging : Sink ω).Plain := by
  intro event memory r member
  exact List.mem_singleton.mp member

theorem identifies_eventRecord (event : Audit.Event) :
    (eventRecord event).Identifies event.requestId := by
  intro v
  simp [eventRecord, eventFields]

theorem Plain.identifies {s : Sink ω} (plain : s.Plain) {id : String} {r : Log.Record}
    (writes : s.Writes id r) : r.Identifies id ∧ r.span = none := by
  obtain ⟨event, memory, rfl, member⟩ := writes
  rw [plain event memory r member]
  exact ⟨identifies_eventRecord event, rfl⟩

end Audit.Sink

/-- The exchange keeps this id, and so does all that is done meanwhile. -/
abbrev Duty.Identifies (id : String) (d : Duty ω α) : Prop :=
  Upholds (·.exchange.id = id) (fun a => (Event.ofActivity a).Identifies id none) d

theorem identifies_decisionRecord (id moduleId : String) (phase : Phase) (a : Answer) :
    (decisionRecord id moduleId phase a).Identifies id ∧
      (decisionRecord id moduleId phase a).span = none := by
  have identifies : (decisionRecord id moduleId phase a).Identifies id := by
    intro v
    cases a <;> simp [decisionRecord]
  cases a <;> exact ⟨identifies, rfl⟩

theorem identifies_uncleanRecord (id moduleId : String) (e : AuthError) :
    (uncleanRecord id moduleId e).Identifies id ∧ (uncleanRecord id moduleId e).span = none := by
  refine ⟨?_, rfl⟩
  intro v
  simp [uncleanRecord]

theorem noteDecision_identifies (id moduleId : String) (phase : Phase) (a : Answer) :
    Duty.Identifies id (noteDecision moduleId phase a : Duty ω Unit) := by
  refine .get_bind ?_
  intro p same
  have record :
      (Event.logged (decisionRecord p.exchange.id moduleId phase a)).Identifies id none := by
    rw [same]
    exact identifies_decisionRecord id moduleId phase a
  exact .seq (.emit record) (.modify fun _ same => same)

namespace AuthModule

variable (m : AuthModule ω) (place : Nat) (service : Subject) (id : String)

theorem engage_identifies {κ : Type} {call : Call} {work : Work κ (Ending α)}
    {held : Proceeding ω → κ} {give : κ → Proceeding ω → Proceeding ω} {p : Proceeding ω}
    (same : p.exchange.id = id) (sees : call.exchange = p.exchange) :
    (m.engage place call work held give p).state.exchange.id = id ∧
      ∀ a ∈ (m.engage place call work held give p).journal,
        (Event.ofActivity a).Identifies id none := by
  refine ⟨same, ?_⟩
  intro a member
  rw [List.mem_singleton.mp member]
  exact (congrArg Exchange.id sees).trans same

theorem attemptCleaning_identifies : Duty.Identifies id (m.attemptCleaning place) := by
  have visit : Duty.Identifies id (m.cleanAt place) :=
    fun _ same => m.engage_identifies place id same rfl
  refine visit.guarded.bind ?_
  intro a
  cases a with
  | ok done => exact .pure _
  | error e =>
    refine .get_bind ?_
    intro p same
    have record : (Event.logged (uncleanRecord p.exchange.id m.id e)).Identifies id none := by
      rw [same]
      exact identifies_uncleanRecord id m.id e
    exact .seq (.emit record) (.pure _)

end AuthModule

namespace Chain

variable (c : Chain ω) (service : Subject) (id : String)

theorem vouch_identifies (place : Option Nat) :
    Duty.Identifies id (vouch place : Duty ω Unit) := .modify fun _ same => same

theorem validate_identifies : Duty.Identifies id (c.validate service) := by
  have asks (m : AuthModule ω) (place : Nat) : Duty.Identifies id (m.validateAt place service) :=
    fun _ same => m.engage_identifies place id same rfl
  have notes (moduleId : String) (a : Answer) :
      Duty.Identifies id (noteDecision moduleId .validateRequest a : Duty ω Unit) :=
    noteDecision_identifies id moduleId .validateRequest a
  exact validate_upholds asks notes (vouch_identifies id) c

theorem secure_identifies : Duty.Identifies id (c.secure service) := by
  have secures (m : AuthModule ω) (place : Nat) : Duty.Identifies id (m.secureAt place service) :=
    fun _ same => m.engage_identifies place id same rfl
  have notes (moduleId : String) (a : Answer) :
      Duty.Identifies id (noteDecision moduleId .secureResponse a : Duty ω Unit) :=
    noteDecision_identifies id moduleId .secureResponse a
  exact secure_upholds secures notes c

theorem cleanFrom_identifies (place : Nat) (ms : List (AuthModule ω)) :
    Duty.Identifies id (cleanFrom place ms) := by
  induction ms generalizing place with
  | nil => exact .pure _
  | cons m ms ih =>
    refine (m.attemptCleaning_identifies place id).bind ?_
    intro first
    refine (ih (place + 1)).bind ?_
    intro others
    cases first <;> exact .pure _

theorem clean_identifies : Duty.Identifies id c.clean := cleanFrom_identifies id 0 _

end Chain

namespace Gate

variable (g : Gate ω) (c : Chain ω) (t : Ticket) (resource : Resource ω)

/-- The event belongs to this request, except that the sink may log what it will. The one call of
the resource is left out, since the attributes may be replaced after it. -/
def Correlates (id : String) (e : Event) : Prop :=
  e.Identifies id none ∨ e.isDispatch = true ∨ ∃ r, g.sink.Writes id r ∧ e = .logged r

abbrev Correlated (id : String) (x : Step ω α) : Prop :=
  Upholds (·.exchange.id = id) (g.Correlates id) x

theorem say_correlated (level : Log.Level) (message : String) :
    g.Correlated t.id (g.say t level message) := by
  have identifies : ((g.logger.forRequest t.id).record level message).Identifies t.id := by
    intro v
    simp [Logger.forRequest, RequestLog.record]
  exact .emit (.inl ⟨identifies, rfl⟩)

variable {g} in
theorem perform_correlated {id : String} {d : Duty ω (Except AuthError α)}
    (identifies : Duty.Identifies id d) {event : Scene ω → Event}
    (named : ∀ s : Scene ω, s.exchange.id = id → (event s).Identifies id none) :
    g.Correlated id (perform event d) := by
  have behind : Upholds (·.exchange.id = id) (fun a => g.Correlates id (.ofActivity a)) d :=
    identifies.imp fun _ => .inl
  refine perform_upholds behind ?_
  intro s same
  exact .inl (named s same)

theorem refuse_correlated (id : String) (e : AuthError) : g.Correlated id (g.refuse e) := by
  intro s same
  rw [refuse_apply]
  refine ⟨same, ?_⟩
  intro e member
  rw [List.mem_singleton.mp member]
  exact .inl same

theorem release_correlated (id : String) (outcome : Audit.Outcome) :
    g.Correlated id (release outcome) := by
  refine .get_bind ?_
  intro _ _
  exact .seq (.modify fun _ same => same) (.pure _)

theorem dispatch_correlated (id : String) : g.Correlated id (dispatch resource) := by
  apply dispatch_upholds
  · intro s same
    cases service : (resource.handle s.exchange.request s.caller).1 with
    | halted h =>
      rw [dispatch_of_halted resource service]
      exact same
    | settled response =>
      rw [dispatch_of_settled resource service]
      exact same
  · intro s _
    exact .inr (.inl rfl)

theorem authenticate_correlated :
    (g.fronting c).Correlated t.id ((g.fronting c).authenticate t resource) := by
  have steps : (g.fronting c).Upholding t resource (·.exchange.id = t.id)
      ((g.fronting c).Correlates t.id) :=
    { tells := (g.fronting c).say_correlated t
      validates := perform_correlated (c.validate_identifies g.service t.id) fun _ same => same
      secures := perform_correlated (c.secure_identifies g.service t.id) fun _ same => same
      refuses := (g.fronting c).refuse_correlated t.id
      releases := (g.fronting c).release_correlated t.id
      grants := .modify fun _ same => same
      dispatches := (g.fronting c).dispatch_correlated resource t.id }
  exact steps.authenticate

theorem clean_correlated (id : String) : (g.fronting c).Correlated id (g.fronting c).clean :=
  perform_correlated (c.clean_identifies id) fun _ same => same

theorem audit_correlated (principal : Option String) (outcome : Audit.Outcome) :
    g.Correlated t.id (g.audit t principal outcome) := by
  refine .get_bind ?_
  intro s _
  refine .seq (.emit (.inl rfl)) (.bind ?_ ?_)
  · intro s same
    refine ⟨same, ?_⟩
    intro e member
    obtain ⟨r, logged, rfl⟩ := List.mem_map.mp member
    have writes : g.sink.Writes t.id r := ⟨_, s.memory, rfl, logged⟩
    exact .inr (.inr ⟨r, writes, rfl⟩)
  · intro answer
    cases answer with
    | ok taken => exact .pure _
    | error refusal => exact g.say_correlated t .error _

theorem cleanAtOnce_correlated :
    (g.fronting c).Correlated t.id ((g.fronting c).cleanAtOnce t) := by
  refine (g.clean_correlated c t.id).attempt.bind ?_
  intro cleaned
  match cleaned with
  | .settled (.ok ()) => exact .pure _
  | .settled (.error e) => exact (g.fronting c).say_correlated t .error _
  | .halted _ => exact (g.fronting c).say_correlated t .error _

theorem forsake_correlated (h : Halt) : g.Correlated t.id (g.forsake t h) := by
  refine .seq (.modify fun _ same => same) (.get_bind ?_)
  intro s _
  have audited := g.audit_correlated t s.principal .error
  exact audited.seq (.ofEnding _)

theorem abandon_correlated (h : Halt) (uncleaned : Bool) :
    (g.fronting c).Correlated t.id ((g.fronting c).abandon t h uncleaned : Step ω Response) := by
  have told := (g.fronting c).say_correlated t .warn "request dropped before completion"
  have forsake := (g.fronting c).forsake_correlated t h
  cases uncleaned with
  | true => exact told.seq ((g.cleanAtOnce_correlated c t).seq forsake)
  | false => exact told.seq forsake

theorem finish_correlated (settlement : Settlement) :
    g.Correlated t.id (g.finish t settlement) := by
  refine .get_bind ?_
  intro s _
  have audited := g.audit_correlated t s.attributes.principal settlement.outcome
  have told := g.say_correlated t .debug
    ("request finished: outcome=" ++ settlement.outcome.name ++ ", status=" ++
      settlement.response.status.text)
  exact audited.seq (told.seq (.pure _))

theorem conclude_correlated (settlement : Settlement) :
    (g.fronting c).Correlated t.id ((g.fronting c).conclude t settlement) := by
  have finished := (g.fronting c).finish_correlated t settlement
  refine (g.clean_correlated c t.id).attempt.bind ?_
  intro cleaned
  match cleaned with
  | .halted h => exact g.abandon_correlated c t h false
  | .settled (.ok ()) => exact finished
  | .settled (.error e) => exact ((g.fronting c).say_correlated t .error _).seq finished

theorem run_correlated : (g.fronting c).Correlated t.id ((g.fronting c).run t resource) := by
  refine (g.authenticate_correlated c t resource).attempt.bind ?_
  intro authenticated
  cases authenticated with
  | halted h => exact g.abandon_correlated c t h true
  | settled settlement => exact g.conclude_correlated c t settlement

/-- The resource finds the id in its attributes. -/
theorem dispatch_identifies (fresh : String) (request : Request) (caller : Caller ω) {e : Event}
    (member : e ∈ (g.process fresh resource request caller).journal)
    (dispatched : e.isDispatch = true) :
    e.Identifies (issue fresh request caller).id none := by
  have filtered := List.mem_filter.mpr ⟨member, dispatched⟩
  obtain ⟨called, uncalled⟩ := g.filter_dispatch resource fresh request caller
  by_cases success : g.Authenticates (opening fresh request caller)
  · have found := g.admitted_attributes (opening fresh request caller)
    rw [called success] at filtered
    rw [List.mem_singleton.mp filtered]
    exact (congrArg Attributes.requestId found).trans rfl
  · rw [uncalled success] at filtered
    cases filtered

/-- A run has one id: the one that the caller has, even an empty one, or else the fresh one. It
opens a span with this id, and all that it does in the span, to its very end, is done under this
id: every call of a collaborator, and every log record, but for what a sink logs of its own. -/
theorem process_correlates (fresh : String) (request : Request) (caller : Caller ω) :
    let id := caller.attributes.requestId.getD fresh
    ∃ span rest,
      ((g.fronting c).process fresh resource request caller).journal = .opened span :: rest ∧
      span.name = "authn" ∧ (∀ v, ("request_id", v) ∈ span.fields ↔ v = id) ∧
      (∀ e ∈ rest, e.Identifies id (some span.name) ∨
        ∃ r, g.sink.Writes id r ∧ e = .logged (r.within span.name)) ∧
      (g.sink.Plain → ∀ e ∈ rest, e.Identifies id (some span.name)) := by
  intro id
  let t := issue fresh request caller
  let s := opening fresh request caller
  let rest := ((g.fronting c).run t resource s).journal.map (Event.within spanName)
  have opened : ((g.fronting c).process fresh resource request caller).journal =
      .opened ((g.fronting c).span t) :: rest := rfl
  have correlates (e : Event) (member : e ∈ rest) : e.Identifies id (some spanName) ∨
      ∃ r, g.sink.Writes id r ∧ e = .logged (r.within spanName) := by
    obtain ⟨inner, done, rfl⟩ := List.mem_map.mp member
    obtain ⟨-, correlated⟩ := g.run_correlated c t resource s rfl
    rcases correlated inner done with identifies | dispatched | ⟨r, writes, rfl⟩
    · exact .inl (identifies.within spanName)
    · cases inner with
      | dispatched attributes sent =>
        have noted : .dispatched attributes sent ∈
            ((g.fronting c).process fresh resource request caller).journal :=
          opened ▸ List.mem_cons_of_mem _ member
        exact .inl ((g.fronting c).dispatch_identifies resource fresh request caller noted rfl)
      | _ => cases dispatched
    · exact .inr ⟨r, writes, rfl⟩
  refine ⟨(g.fronting c).span t, rest, opened, rfl, ?_, correlates, ?_⟩
  · intro v
    simp [Gate.span, t, issue, Attributes.assignRequestId, id]
  · intro plain e member
    rcases correlates e member with identifies | ⟨r, writes, rfl⟩
    · exact identifies
    · have identifies : Event.Identifies id none (.logged r) := plain.identifies writes
      exact identifies.within spanName

end Gate

end Gatekeeper
