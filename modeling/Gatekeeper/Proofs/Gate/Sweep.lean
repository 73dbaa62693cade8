import Gatekeeper.Proofs.Chain.Sweep
import Gatekeeper.Proofs.Gate.Conduct
import Gatekeeper.Proofs.Upholding

namespace Gatekeeper

open Act (Upholds)
open Http (Request Response)

variable {ω α : Type}

/-- The record tells of a module that failed to clean, and names it. -/
def Log.Record.isComplaint (r : Log.Record) : Bool :=
  r.message = "module failed to clean subject" && "module" ∈ r.fields.map Prod.fst

namespace Event

def isCleaningCall : Event → Bool
  | .called _ _ (.clean _ _) => true
  | _ => false

def complaints (journal : List Event) : List Log.Record :=
  (journal.filterMap record?).filter Log.Record.isComplaint

@[simp] theorem complaints_append (i j : List Event) :
    complaints (i ++ j) = complaints i ++ complaints j := by
  rw [complaints, List.filterMap_append, List.filter_append]
  rfl

theorem complaints_map_logged (logs : List Log.Record) :
    complaints (logs.map .logged) = logs.filter Log.Record.isComplaint := by
  have records : (logs.map Event.logged).filterMap record? = logs := by
    rw [List.filterMap_map]
    exact List.filterMap_some
  rw [complaints, records]

theorem complaints_within (span : String) (journal : List Event) :
    complaints (journal.map (within span)) = (complaints journal).map (Log.Record.within span) := by
  have records : (journal.map (within span)).filterMap record? =
      (journal.filterMap record?).map (Log.Record.within span) := by
    rw [List.filterMap_map, List.map_filterMap]
    congr 1
    funext e
    cases e <;> rfl
  rw [complaints, records, List.filter_map]
  rfl

/-- Nothing in the event tells of a module that failed to clean. -/
def Calm (e : Event) : Prop := complaints [e] = []

theorem complaints_eq_nil {journal : List Event} (calm : ∀ e ∈ journal, e.Calm) :
    complaints journal = [] := by
  induction journal with
  | nil => rfl
  | cons e journal ih =>
    obtain ⟨here, later⟩ := List.forall_mem_cons.mp calm
    have split : complaints (e :: journal) = complaints [e] ++ complaints journal :=
      complaints_append [e] journal
    rw [split, here, ih later]
    rfl

end Event

open Event (complaints)

abbrev Duty.Calm (d : Duty ω α) : Prop :=
  Upholds (fun _ => True) (fun a => (Event.ofActivity a).Calm) d

abbrev Step.Calm (x : Step ω α) : Prop := Upholds (fun _ => True) Event.Calm x

theorem Step.Calm.complaints {x : Step ω α} (calm : Step.Calm x) (s : Scene ω) :
    complaints (x s).journal = [] :=
  Event.complaints_eq_nil (calm s trivial).2

theorem noteDecision_calm (moduleId : String) (phase : Phase) (a : Answer) :
    Duty.Calm (noteDecision moduleId phase a : Duty ω Unit) := by
  refine .get_bind ?_
  intro p _
  have record : (Event.logged (decisionRecord p.exchange.id moduleId phase a)).Calm := by
    cases a <;> rfl
  exact .seq (.emit record) (.modify fun _ _ => trivial)

namespace Gate

variable (g : Gate ω) (c : Chain ω) (t : Ticket) (resource : Resource ω)

/-- What the gate says itself names no module. -/
theorem record_not_isComplaint (level : Log.Level) (message : String) :
    ¬((g.logger.forRequest t.id).record level message).isComplaint := by
  have unnamed : ((g.logger.forRequest t.id).record level message).isComplaint = false :=
    Bool.and_false _
  rw [unnamed]
  exact Bool.false_ne_true

theorem say_calm (level : Log.Level) (message : String) : Step.Calm (g.say t level message) := by
  apply Upholds.emit
  show List.filter _ [_] = []
  rw [List.filter_cons_of_neg (g.record_not_isComplaint t level message)]
  rfl

theorem refuse_calm (e : AuthError) : Step.Calm (g.refuse e) := by
  intro s _
  rw [refuse_apply]
  exact ⟨trivial, List.forall_mem_singleton.mpr rfl⟩

theorem authenticate_calm : Step.Calm ((g.fronting c).authenticate t resource) := by
  have vouches (place : Option Nat) : Duty.Calm (Chain.vouch place : Duty ω Unit) :=
    .modify fun _ _ => trivial
  have asks (m : AuthModule ω) (place : Nat) : Duty.Calm (m.validateAt place g.service) :=
    fun _ _ => ⟨trivial, List.forall_mem_singleton.mpr rfl⟩
  have validates : Duty.Calm (c.validate g.service) :=
    Chain.validate_upholds asks (fun id => noteDecision_calm id .validateRequest) vouches c
  have settles (m : AuthModule ω) (place : Nat) : Duty.Calm (m.secureAt place g.service) :=
    fun _ _ => ⟨trivial, List.forall_mem_singleton.mpr rfl⟩
  have secures : Duty.Calm (c.secure g.service) :=
    Chain.secure_upholds settles (fun id => noteDecision_calm id .secureResponse) c
  have releases (outcome : Audit.Outcome) : Step.Calm (release outcome : Step ω Settlement) :=
    .get_bind fun _ _ => .seq (.modify fun _ _ => trivial) (.pure _)
  have steps : (g.fronting c).Upholding t resource (fun _ => True) Event.Calm :=
    { tells := (g.fronting c).say_calm t
      validates := perform_upholds validates fun _ _ => rfl
      secures := perform_upholds secures fun _ _ => rfl
      refuses := (g.fronting c).refuse_calm
      releases
      grants := .modify fun _ _ => trivial
      dispatches := dispatch_upholds (fun _ _ => trivial) fun _ _ => rfl }
  exact steps.authenticate

/-- These records are the complaints of the journal, but for those that the sink logs itself when it
is handed the event of the run, with the memory that is left in the scene. -/
def Complains (s : Scene ω) (told : List Log.Record) (journal : List Event) : Prop :=
  ∃ event, .audited event ∈ journal ∧
    complaints journal =
      told ++ (g.sink.receive event s.memory).logs.filter Log.Record.isComplaint

variable {g} in
theorem Complains.after {s : Scene ω} {told whole : List Log.Record} {journal : List Event}
    (complains : g.Complains s told journal) {j : List Event}
    (earlier : complaints j ++ told = whole) : g.Complains s whole (j ++ journal) := by
  obtain ⟨event, audited, complaints⟩ := complains
  refine ⟨event, List.mem_append_right j audited, ?_⟩
  rw [Event.complaints_append, complaints, ← List.append_assoc, earlier]

theorem say_complains {s : Scene ω} {told : List Log.Record} {level : Log.Level} {message : String}
    {f : Unit → Step ω Response} (complains : g.Complains s told (f () s).journal) :
    g.Complains s told ((g.say t level message >>= f) s).journal :=
  complains.after (congrArg (· ++ told) ((g.say_calm t level message).complaints s))

theorem clean_complains {s : Scene ω} {f : Ending (Except AuthError Unit) → Step ω Response}
    (complains : g.Complains (g.clean s).state []
      (f (g.clean s).ending (g.clean s).state).journal) :
    g.Complains (g.clean s).state (complaints (g.clean s).journal)
      ((g.clean.attempt >>= f) s).journal :=
  complains.after (List.append_nil _)

theorem auditLog_complaints (event : Audit.Event) (memory : ω) :
    (g.auditLog t event memory).filter Log.Record.isComplaint =
      (g.sink.receive event memory).logs.filter Log.Record.isComplaint := by
  unfold auditLog
  rw [List.filter_append]
  split
  · rw [List.filter_cons_of_neg (g.record_not_isComplaint t .error _)]
    exact List.append_nil _
  · exact List.append_nil _

theorem audit_complains {f : Step ω Response} (calm : Step.Calm f) (principal : Option String)
    (outcome : Audit.Outcome) (s : Scene ω) :
    g.Complains s [] ((g.audit t principal outcome >>= fun _ => f) s).journal := by
  have told := g.audit_apply t principal outcome s
  have complaints : complaints (g.audit t principal outcome s).journal =
      (g.sink.receive (s.report t principal outcome) s.memory).logs.filter
        Log.Record.isComplaint := by
    rw [told, ← g.auditLog_complaints t, ← Event.complaints_map_logged]
    rfl
  have audited : .audited (s.report t principal outcome) ∈
      (g.audit t principal outcome s).journal := by
    rw [told]
    exact List.mem_cons_self
  have within := (Act.journal_prefix_bind (g.audit t principal outcome) (fun _ => f) s).subset
  refine ⟨s.report t principal outcome, within audited, ?_⟩
  cases ending : (g.audit t principal outcome s).ending with
  | halted h => rw [Act.bind_of_halted ending, complaints, List.nil_append]
  | settled a =>
    rw [Act.settled_bind ending, Run.after_journal, Event.complaints_append, complaints,
      calm.complaints, List.append_nil, List.nil_append]

theorem forsake_complains (h : Halt) (s : Scene ω) :
    g.Complains s [] (g.forsake t h s).journal :=
  -- The sink is handed nothing of the client subject, which is cleared first.
  g.audit_complains t (.ofEnding (.halted h)) s.principal .error
    { s with client := s.client.clear }

theorem finish_complains (settlement : Settlement) (s : Scene ω) :
    g.Complains s [] (g.finish t settlement s).journal :=
  g.audit_complains t ((g.say_calm t _ _).bind fun _ => .pure _) s.attributes.principal
    settlement.outcome s

theorem abandon_uncleaned_complains (h : Halt) (s : Scene ω) :
    g.Complains (g.clean s).state (complaints (g.clean s).journal)
      (g.abandon t h true s : Run (Scene ω) Event Response).journal := by
  have forsaken := g.forsake_complains t h (g.clean s).state
  have cleaned : g.Complains (g.clean s).state (complaints (g.clean s).journal)
      ((g.cleanAtOnce t >>= fun _ => g.forsake t h) s).journal := by
    unfold cleanAtOnce
    rw [bind_assoc]
    apply g.clean_complains
    match (g.clean s).ending with
    | .settled (.ok ()) => exact forsaken
    | .settled (.error e) => exact g.say_complains t forsaken
    | .halted k => exact g.say_complains t forsaken
  exact cleaned.after (congrArg (· ++ _) ((g.say_calm t _ _).complaints s))

theorem conclude_complains (settlement : Settlement) (s : Scene ω) :
    g.Complains (g.clean s).state (complaints (g.clean s).journal)
      (g.conclude t settlement s).journal := by
  have finished := g.finish_complains t settlement (g.clean s).state
  apply g.clean_complains
  match (g.clean s).ending with
  | .settled (.ok ()) => exact finished
  | .settled (.error e) => exact g.say_complains t finished
  | .halted h => exact g.say_complains t (g.forsake_complains t h _)

theorem run_complains (c : Chain ω) (s : Scene ω) :
    (g.fronting c).Complains ((g.fronting c).cleanup t resource s).state
      (complaints ((g.fronting c).cleanup t resource s).journal)
      ((g.fronting c).run t resource s).journal := by
  have calm := (g.authenticate_calm c t resource).complaints s
  have first (told : List Log.Record) :
      complaints ((g.fronting c).authenticate t resource s).journal ++ told = told :=
    congrArg (· ++ told) calm
  unfold run
  rw [Act.attempt_bind]
  cases ((g.fronting c).authenticate t resource s).ending with
  | halted h => exact ((g.fronting c).abandon_uncleaned_complains t h _).after (first _)
  | settled settlement => exact ((g.fronting c).conclude_complains t settlement _).after (first _)

theorem isComplaint_of_complaint? {d : Deed ω} {r : Log.Record} (failed : d.complaint? = some r) :
    r.isComplaint = true := by
  obtain ⟨e, -, rfl⟩ := Option.map_eq_some_iff.mp failed
  rfl

theorem complaints_ofActivity {ds : List (Deed ω)} :
    complaints ((ds.flatMap Deed.trace).map Event.ofActivity) = ds.filterMap Deed.complaint? := by
  have records : ((ds.flatMap Deed.trace).map Event.ofActivity).filterMap Event.record? =
      ds.filterMap Deed.complaint? := by
    have same : Event.record? ∘ Event.ofActivity = Activity.record? := by
      funext a
      cases a <;> rfl
    rw [List.filterMap_map, same, List.filterMap_flatMap, List.filterMap_eq_flatMap_toList]
    simp only [Deed.record?_trace]
  rw [complaints, records, List.filter_eq_self]
  intro r complains
  obtain ⟨d, -, failed⟩ := List.mem_filterMap.mp complains
  exact isComplaint_of_complaint? failed

theorem clean_complaints {s : Scene ω} {done : List (Deed ω)}
    (traced : (c.clean s.toProceeding).journal = done.flatMap Deed.trace) :
    complaints ((g.fronting c).clean s).journal = done.filterMap Deed.complaint? := by
  have noted : ((g.fronting c).clean s).journal =
      .cleaning s.exchange s.client :: (c.clean s.toProceeding).journal.map Event.ofActivity :=
    congrArg Run.journal (perform_apply _ _ s)
  rw [noted, traced]
  exact complaints_ofActivity

theorem cleaned_calls {p : Proceeding ω} {cleaned done : List (Deed ω)}
    (cleans : Enacts p (c.clean p) cleaned)
    (traced : (c.clean p).journal = done.flatMap Deed.trace) :
    cleaned.map Deed.event = done.map Deed.event := by
  have calls : cleaned.map Deed.call = done.map Deed.call := by
    rw [← cleans.calls, traced, Deed.filter_isCall_traces]
  have events (ds : List (Deed ω)) : ds.map Deed.event = (ds.map Deed.call).map Event.ofActivity :=
    (List.map_map).symm
  rw [events, events, calls]

theorem isCleaningCall_event (d : Deed ω) :
    d.event.isCleaningCall = true ↔ d.occasion = .cleaning := by
  obtain ⟨place, m, occasion, x, held⟩ := d
  cases occasion with
  | cleaning => exact ⟨fun _ => rfl, fun _ => rfl⟩
  | validation service => exact ⟨nofun, nofun⟩
  | securing service => exact ⟨nofun, nofun⟩

/-- Nobody is called to clean before the cleaning. -/
theorem Conduct.cleaningCalls {fresh : String} {request : Request} {caller : Caller ω}
    (i : Conduct g c (issue fresh request caller) resource (opening fresh request caller)) :
    ((g.fronting c).process fresh resource request caller).journal.filter Event.isCleaningCall =
      i.cleaned.map Deed.event := by
  have otherwise : ((i.asked ++ i.secured).map Deed.event).filter Event.isCleaningCall = [] := by
    rw [List.filter_eq_nil_iff]
    intro e called cleaning
    obtain ⟨d, done, rfl⟩ := List.mem_map.mp called
    rw [isCleaningCall_event] at cleaning
    rcases List.mem_append.mp done with asked | secured
    · cases cleaning.symm.trans (i.asked_candidates d asked).1
    · cases cleaning.symm.trans (i.secured_candidates d secured).1
  have cleaning : (i.cleaned.map Deed.event).filter Event.isCleaningCall =
      i.cleaned.map Deed.event :=
    Deed.filter_events fun d done => (isCleaningCall_event d).mpr (i.cleaned_candidates d done).1
  have among (e : Event) (cleans : e.isCleaningCall = true) : e.isModuleCall = true := by
    cases e <;> first | rfl | cases cleans
  rw [← Event.filter_among among, i.moduleCalls, List.map_append, List.filter_append, otherwise,
    cleaning]
  rfl

/-- However a request is validated, dispatched and secured, and however its run ends, every
candidate is cleaned once, in order, about what the one before it has left, unless a candidate never
settles and keeps those after it waiting. The cleaning ends with the first failure, and the log
tells of every failure once and in order, beside what the sink logs itself. -/
theorem process_cleans_everyone (fresh : String) (request : Request) (caller : Caller ω) :
    let t := issue fresh request caller
    let s := opening fresh request caller
    let left := ((g.fronting c).authenticate t resource s).state.toProceeding
    let all := procession .cleaning 0 c.candidates left.exchange left.toCustody
    let journal := ((g.fronting c).process fresh resource request caller).journal
    all.map (fun d => (d.place, d.actor, d.occasion)) =
        c.candidates.mapIdx (fun i m => (i, m, .cleaning)) ∧
      ∃ cleaned, Sweeps all cleaned (c.clean left).ending ∧
        journal.filter Event.isCleaningCall = cleaned.map Deed.event ∧
        ∃ event, .audited event ∈ journal ∧
          complaints journal =
            (cleaned.filterMap Deed.complaint? ++
              (g.sink.receive event ((g.fronting c).cleanup t resource s).state.memory).logs.filter
                Log.Record.isComplaint).map (Log.Record.within spanName) := by
  intro t s left all journal
  have standing : all.map (fun d => (d.place, d.actor, d.occasion)) =
      c.candidates.mapIdx (fun i m => (i, m, .cleaning)) := by
    rw [procession_standing]
    simp only [Nat.zero_add]
  obtain ⟨i⟩ := g.exists_conduct c t resource s
  obtain ⟨cleaned, sweeps, traced⟩ := c.clean_sweeps left
  have calls := i.cleaningCalls.trans (cleaned_calls c i.cleans traced)
  refine ⟨standing, cleaned, sweeps, calls, ?_⟩
  obtain ⟨event, audited, told⟩ := g.run_complains t resource c s
  rw [cleanup, g.clean_complaints c traced] at told
  have among : .audited event ∈ journal :=
    List.mem_cons_of_mem _ (List.mem_map_of_mem (f := Event.within spanName) audited)
  have spanned : complaints journal =
      (complaints ((g.fronting c).run t resource s).journal).map (Log.Record.within spanName) :=
    Event.complaints_within spanName _
  refine ⟨event, among, ?_⟩
  rw [spanned, told]
  rfl

end Gate

end Gatekeeper
