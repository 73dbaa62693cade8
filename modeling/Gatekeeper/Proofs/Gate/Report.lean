import Gatekeeper.Proofs.Gate.Course

namespace Gatekeeper

open Http (Request Response)

variable {ω α : Type}

/-- What the audit is told in a scene. -/
def Scene.report (s : Scene ω) (t : Ticket) (principal : Option String) (outcome : Audit.Outcome) :
    Audit.Event :=
  { s.exchange.trail.toEvent t.id principal outcome with method := t.method, path := t.path }

namespace Gate

variable (g : Gate ω) (t : Ticket) (resource : Resource ω)

def auditLog (e : Audit.Event) (memory : ω) : List Log.Record :=
  (g.sink.receive e memory).logs ++
    match (g.sink.receive e memory).answer with
    | .ok (.error refusal) => [(g.logger.forRequest t.id).record .error refusal.text]
    | _ => []

def noteAnswer : Except AuditError Unit → Step ω Unit
  | .ok () => pure ()
  | .error refusal => g.say t .error refusal.text

theorem audit_apply (principal : Option String) (outcome : Audit.Outcome) (s : Scene ω) :
    g.audit t principal outcome s =
      { ending :=
          (Ending.ofExcept (g.sink.receive (s.report t principal outcome) s.memory).answer).map
            fun _ => ()
        state :=
          { s with memory := (g.sink.receive (s.report t principal outcome) s.memory).memory }
        journal :=
          .audited (s.report t principal outcome) ::
            (g.auditLog t (s.report t principal outcome) s.memory).map Event.logged } := by
  have told : g.audit t principal outcome s =
      (Run.andThen
        ⟨.ofExcept (g.sink.receive (s.report t principal outcome) s.memory).answer,
          { s with memory := (g.sink.receive (s.report t principal outcome) s.memory).memory },
          (g.sink.receive (s.report t principal outcome) s.memory).logs.map Event.logged⟩
        (g.noteAnswer t)).after
        [.audited (s.report t principal outcome)] := rfl
  rw [told, auditLog]
  cases (g.sink.receive (s.report t principal outcome) s.memory).answer with
  | error c => simp [Run.andThen, Run.after, Ending.ofExcept, Ending.map]
  | ok answer =>
    cases answer with
    | ok taken => simp [Run.andThen, Run.after, Ending.ofExcept, Ending.map, noteAnswer]
    | error refusal =>
      simp [Run.andThen, Run.after, Ending.ofExcept, Ending.map, noteAnswer, say, Act.emit]

/-- Comes after `before` and ends with a report that is made in a scene: the caller gets the
attributes of that scene, and a crash of the sink replaces the ending. -/
structure Reports (s : Scene ω) (principal : Option String) (outcome : Audit.Outcome)
    (ending : Ending Response) (before : List Event) (r : Run (Scene ω) Event Response) :
    Prop where
  calls : Event.calls r.journal = before ++ [.audited (s.report t principal outcome)]
  caller : r.state.caller =
    ⟨s.attributes, (g.sink.receive (s.report t principal outcome) s.memory).memory⟩
  ending : r.ending =
    match (g.sink.receive (s.report t principal outcome) s.memory).answer with
    | .ok _ => ending
    | .error c => .halted (.crashed c)

variable {g t} in
theorem Reports.after {s : Scene ω} {principal : Option String} {outcome : Audit.Outcome}
    {ending : Ending Response} {before whole : List Event} {r : Run (Scene ω) Event Response}
    (h : g.Reports t s principal outcome ending before r) {j : List Event}
    (hj : Event.calls j ++ before = whole) :
    g.Reports t s principal outcome ending whole (r.after j) where
  calls := by rw [← hj, Run.after_journal, Event.calls_append, h.calls, List.append_assoc]
  caller := h.caller
  ending := h.ending

/-- A report that is followed by something quiet. -/
theorem audit_reports (f : Step ω Response) {ending : Ending Response}
    (quiet : ∀ s, (f s).ending = ending ∧ (f s).state = s ∧ Event.calls (f s).journal = [])
    (principal : Option String) (outcome : Audit.Outcome) (s : Scene ω) :
    g.Reports t s principal outcome ending []
      ((g.audit t principal outcome >>= fun _ => f) s) := by
  have told := g.audit_apply t principal outcome s
  have calls : Event.calls (g.audit t principal outcome s).journal =
      [.audited (s.report t principal outcome)] := by
    rw [told, Event.calls_cons rfl, Event.calls_map_logged]
  have caller : (g.audit t principal outcome s).state.caller =
      ⟨s.attributes, (g.sink.receive (s.report t principal outcome) s.memory).memory⟩ := by
    rw [told]
    rfl
  cases answer : (g.sink.receive (s.report t principal outcome) s.memory).answer with
  | error c =>
    have ended : (g.audit t principal outcome s).ending = .halted (.crashed c) := by
      rw [told, answer]
      rfl
    rw [Act.bind_of_halted ended]
    constructor
    case calls => exact calls
    case caller => exact caller
    case ending => rw [answer]
  | ok a =>
    have ended : (g.audit t principal outcome s).ending = .settled () := by
      rw [told, answer]
      rfl
    obtain ⟨ends, stays, silent⟩ := quiet (g.audit t principal outcome s).state
    rw [Act.settled_bind ended]
    constructor
    case calls =>
      rw [Run.after_journal, Event.calls_append, calls, silent]
      rfl
    case caller =>
      rw [Run.after_state, stays]
      exact caller
    case ending => rw [Run.after_ending, ends, answer]

theorem finish_reports (settlement : Settlement) (s : Scene ω) :
    g.Reports t s s.attributes.principal settlement.outcome (.settled settlement.response) []
      (g.finish t settlement s) :=
  g.audit_reports t
    (do
      g.say t .debug
        ("request finished: outcome=" ++ settlement.outcome.name ++ ", status=" ++
          settlement.response.status.text)
      return settlement.response)
    (fun _ => ⟨rfl, rfl, rfl⟩) _ _ s

/-- The end of an abandoned run, once it is cleaned. -/
def forsake (h : Halt) : Step ω Response := do
  Act.modify fun s => { s with client := s.client.clear }
  let s ← Act.get
  g.audit t s.principal .error
  Act.ofEnding (.halted h)

theorem forsake_reports (h : Halt) (s : Scene ω) :
    g.Reports t s s.principal .error (.halted h) [] (g.forsake t h s) := by
  -- The report does not tell of the client subject, which is cleared first.
  have told := g.audit_reports t (Act.ofEnding (.halted h)) (fun _ => ⟨rfl, rfl, rfl⟩)
    s.principal .error { s with client := s.client.clear }
  exact ⟨told.calls, told.caller, told.ending⟩

theorem cleanAtOnce_bind (f : Unit → Step ω α) (s : Scene ω) :
    ∃ logs : List Log.Record, (g.cleanAtOnce t >>= f) s =
      (f () (g.clean s).state).after ((g.clean s).journal ++ logs.map .logged) := by
  unfold cleanAtOnce
  rw [bind_assoc, Act.attempt_bind]
  match (g.clean s).ending with
  | .settled (.ok ()) => exact ⟨[], by simp⟩
  | .settled (.error e) =>
    exact ⟨[(g.logger.forRequest t.id).record .error _], Run.after_after _ _ _⟩
  | .halted k => exact ⟨[(g.logger.forRequest t.id).record .error _], Run.after_after _ _ _⟩

theorem abandon_reports (h : Halt) (s : Scene ω) :
    g.Reports t s s.principal .error (.halted h) [] (g.abandon t h false s) :=
  (g.forsake_reports t h s).after (j := [.logged _]) rfl

theorem abandon_uncleaned_reports (h : Halt) (s : Scene ω) :
    g.Reports t (g.clean s).state (g.clean s).state.principal .error (.halted h)
      (Event.calls (g.clean s).journal) (g.abandon t h true s) := by
  have steps : g.abandon t h true s =
      ((g.cleanAtOnce t >>= fun _ => g.forsake t h) s).after
        [.logged ((g.logger.forRequest t.id).record .warn "request dropped before completion")] :=
    rfl
  obtain ⟨logs, cleaned⟩ := g.cleanAtOnce_bind t (fun _ => g.forsake t h) s
  have forsaken := g.forsake_reports t h (g.clean s).state
  rw [steps, cleaned, Run.after_after]
  exact forsaken.after (by simp)

/-- The cleaning of a run that has come so far. -/
def cleanup (s : Scene ω) : Run (Scene ω) Event (Except AuthError Unit) :=
  g.clean (g.authenticate t resource s).state

theorem filter_calls_cleanup {f : Event → Bool} (hf : ∀ a, f (.ofActivity a) = false)
    (s : Scene ω) :
    (Event.calls (g.cleanup t resource s).journal).filter f =
      [.cleaning (g.authenticate t resource s).state.exchange
        (g.authenticate t resource s).state.client].filter f :=
  filter_calls_perform hf g.authenticator.clean rfl

/-- The ways a run ends, each with what is reported and with the ending that the sink lets stand. -/
inductive Closing (s : Scene ω) : Option String → Audit.Outcome → Ending Response → Prop
  | abandoned {h} (halt : (g.authenticate t resource s).ending = .halted h) :
      Closing s (g.cleanup t resource s).state.principal .error (.halted h)
  | uncleaned {settlement h}
      (settled : (g.authenticate t resource s).ending = .settled settlement)
      (cleaning : (g.cleanup t resource s).ending = .halted h) :
      Closing s (g.cleanup t resource s).state.principal .error (.halted h)
  | finished {settlement a}
      (settled : (g.authenticate t resource s).ending = .settled settlement)
      (cleaning : (g.cleanup t resource s).ending = .settled a) :
      Closing s (g.cleanup t resource s).state.attributes.principal
        settlement.outcome (.settled settlement.response)

/-- Every run is cleaned and then reported, in one of the ways of `Closing`. -/
theorem run_reports (s : Scene ω) :
    ∃ principal outcome ending, g.Closing t resource s principal outcome ending ∧
      g.Reports t (g.cleanup t resource s).state principal outcome ending
        (Event.calls (g.authenticate t resource s).journal ++
          Event.calls (g.cleanup t resource s).journal)
        (g.run t resource s) := by
  unfold run
  rw [Act.attempt_bind]
  cases ending : (g.authenticate t resource s).ending with
  | halted h =>
    have told := g.abandon_uncleaned_reports t h (g.authenticate t resource s).state
    exact ⟨_, _, _, .abandoned ending, told.after rfl⟩
  | settled settlement =>
    have finished := g.finish_reports t settlement (g.cleanup t resource s).state
    dsimp only
    unfold conclude
    rw [Act.attempt_bind, Run.after_after]
    match cleaning : (g.clean (g.authenticate t resource s).state).ending with
    | .halted h =>
      have told := g.abandon_reports t h (g.cleanup t resource s).state
      exact ⟨_, _, _, .uncleaned ending cleaning, told.after (by simp [cleanup])⟩
    | .settled (.ok ()) =>
      exact ⟨_, _, _, .finished ending cleaning, finished.after (by simp [cleanup])⟩
    | .settled (.error e) =>
      refine ⟨_, _, _, .finished ending cleaning, ?_⟩
      dsimp only [noteUnclean]
      rw [say_bind, Run.after_after]
      exact finished.after (by simp [cleanup])

def issue (fresh : String) (request : Request) (c : Caller ω) : Ticket :=
  { id := (c.attributes.assignRequestId fresh).requestId.getD fresh
    method := request.method
    path := request.uri.path }

def opening (fresh : String) (request : Request) (c : Caller ω) : Scene ω :=
  { memory := c.memory
    exchange := .start (issue fresh request c).id request
    attributes := c.attributes.assignRequestId fresh }

theorem process_apply (fresh : String) (request : Request) (c : Caller ω) :
    let t := issue fresh request c
    let r := g.run t resource (opening fresh request c)
    g.process fresh resource request c =
      { ending := r.ending
        state := r.state.caller
        journal := .opened (g.span t) :: r.journal.map (Event.within spanName) } := rfl

theorem calls_within (journal : List Event) :
    Event.calls (journal.map (Event.within spanName)) = Event.calls journal := by
  induction journal with
  | nil => rfl
  | cons e journal ih =>
    cases e with
    | logged r => exact ih
    | opened span => exact ih
    | _ => exact congrArg (List.cons _) ih

theorem process_reports (fresh : String) (request : Request) (c : Caller ω) :
    let t := issue fresh request c
    let s := opening fresh request c
    let told := fun principal outcome =>
      (g.cleanup t resource s).state.report t principal outcome
    ∃ principal outcome ending, g.Closing t resource s principal outcome ending ∧
      Event.calls (g.process fresh resource request c).journal =
        Event.calls (g.authenticate t resource s).journal ++
          Event.calls (g.cleanup t resource s).journal ++ [.audited (told principal outcome)] ∧
      (g.process fresh resource request c).state =
        ⟨(g.cleanup t resource s).state.attributes,
          (g.sink.receive (told principal outcome)
            (g.cleanup t resource s).state.memory).memory⟩ ∧
      (g.process fresh resource request c).ending =
        match (g.sink.receive (told principal outcome)
          (g.cleanup t resource s).state.memory).answer with
        | .ok _ => ending
        | .error crash => .halted (.crashed crash) := by
  intro t s told
  obtain ⟨principal, outcome, ending, closing, reports⟩ := g.run_reports t resource s
  have spanned : Event.calls (g.process fresh resource request c).journal =
      Event.calls (g.run t resource s).journal := calls_within _
  refine ⟨principal, outcome, ending, closing, ?_, reports.caller, reports.ending⟩
  rw [spanned, reports.calls]

end Gate

end Gatekeeper
