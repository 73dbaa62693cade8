import Gatekeeper.Gate.Run
import Gatekeeper.Proofs.Act

namespace Gatekeeper

open Http (Request Response StatusCode)

variable {ω α : Type}

namespace Event

/-- Everything but the span and the log. -/
def isCall : Event → Bool
  | .opened _ | .logged _ => false
  | _ => true

/-- What belongs to the authentication itself: validation, securing and refusals, and what the
modules behind it do. -/
def isAuthentication : Event → Bool
  | .called _ _ _ | .logged _ | .validating _ _ _ | .securing _ _ | .refused _ _ => true
  | _ => false

theorem isAuthentication_ofActivity (a : Activity) : (ofActivity a).isAuthentication = true := by
  cases a <;> rfl

def calls (journal : List Event) : List Event := journal.filter isCall

@[simp] theorem calls_nil : calls [] = [] := rfl

@[simp] theorem calls_append (i j : List Event) : calls (i ++ j) = calls i ++ calls j :=
  List.filter_append i j

@[simp] theorem calls_logged (r : Log.Record) (j : List Event) :
    calls (.logged r :: j) = calls j := rfl

@[simp] theorem calls_map_logged (logs : List Log.Record) : calls (logs.map .logged) = [] := by
  simp [calls, isCall]

theorem calls_cons {e : Event} (h : e.isCall = true) (j : List Event) :
    calls (e :: j) = e :: calls j :=
  List.filter_cons_of_pos h

/-- Nothing is lost by filtering first for more. -/
theorem filter_among {f k : Event → Bool} (among : ∀ e, f e = true → k e = true)
    (journal : List Event) : (journal.filter k).filter f = journal.filter f := by
  rw [List.filter_filter]
  apply List.filter_congr
  intro e _
  cases chosen : f e with
  | false => rfl
  | true => exact among e chosen

theorem filter_calls {f : Event → Bool} (hf : ∀ e, e.isCall = false → f e = false)
    (journal : List Event) : (calls journal).filter f = journal.filter f := by
  apply filter_among
  intro e chosen
  cases call : e.isCall with
  | true => rfl
  | false =>
    rw [hf e call] at chosen
    cases chosen

end Event

/-- A phase may settle on these verdicts. -/
def Phase.admits : Phase → Option Verdict → Bool
  | _, none | _, some .failure | .secureResponse, some .success => false
  | _, _ => true

/-- The error that the answer of a phase is refused with. -/
def Answer.refusal? (phase : Phase) : Answer → Option AuthError
  | .error e => some e
  | .ok v => if phase.admits v then none else some (.invalidVerdict v phase)

namespace Gate

variable (g : Gate ω) (t : Ticket) (resource : Resource ω)

theorem say_bind (level : Log.Level) (message : String) (f : Unit → Step ω α) (s : Scene ω) :
    (g.say t level message >>= f) s =
      (f () s).after [.logged ((g.logger.forRequest t.id).record level message)] := rfl

theorem perform_apply (event : Scene ω → Event) (d : Duty ω (Except AuthError α)) (s : Scene ω) :
    perform event d s =
      { ending := (d s.toProceeding).ending.contained
        state := { s with toProceeding := (d s.toProceeding).state }
        journal := event s :: (d s.toProceeding).journal.map Event.ofActivity } := by
  simp [perform, Act.guarded_apply, Act.focus, Act.mapJournal, Run.after]

theorem validate_ending (s : Scene ω) :
    (g.validate s).ending =
      (g.authenticator.validate g.service s.toProceeding).ending.contained :=
  congrArg Run.ending (perform_apply _ _ s)

theorem validate_toProceeding (s : Scene ω) :
    (g.validate s).state.toProceeding =
      (g.authenticator.validate g.service s.toProceeding).state := by
  rw [validate, perform_apply]

theorem secure_ending (s : Scene ω) :
    (g.secure s).ending = (g.authenticator.secure g.service s.toProceeding).ending.contained :=
  congrArg Run.ending (perform_apply _ _ s)

theorem secure_toProceeding (s : Scene ω) :
    (g.secure s).state.toProceeding =
      (g.authenticator.secure g.service s.toProceeding).state := by
  rw [secure, perform_apply]

theorem refuse_apply (e : AuthError) (s : Scene ω) :
    g.refuse e s =
      { ending :=
          (Ending.ofExcept (g.responder.respond s.exchange e s.memory).1).map (⟨·, .error⟩)
        state := { s with memory := (g.responder.respond s.exchange e s.memory).2 }
        journal := [.refused s.exchange e] } := by
  unfold refuse
  rw [Act.get_bind, Act.emit_bind, Act.bind_apply]
  cases h : (g.responder.respond s.exchange e s.memory).1 <;>
    simp [Act.prompt, Run.andThen, Run.after, Ending.ofExcept, Ending.map, h]

theorem release_apply (outcome : Audit.Outcome) (s : Scene ω) :
    release outcome s =
      { ending := .settled ⟨s.exchange.response, outcome⟩
        state := { s with exchange := s.exchange.takeResponse } } := rfl

/-- The calls of the gate itself are of the one kind, those of the modules behind it of the
other. -/
theorem filter_calls_perform {f : Event → Bool} (hf : ∀ a, f (.ofActivity a) = false)
    {event : Scene ω → Event} (d : Duty ω (Except AuthError α)) {s : Scene ω}
    (call : (event s).isCall = true) :
    (Event.calls (perform event d s).journal).filter f = [event s].filter f := by
  have modules (j : List Activity) : (Event.calls (j.map Event.ofActivity)).filter f = [] := by
    rw [Event.calls, List.filter_filter, List.filter_eq_nil_iff]
    intro e member
    obtain ⟨a, -, rfl⟩ := List.mem_map.mp member
    rw [hf a]
    exact Bool.false_ne_true
  rw [perform_apply, Event.calls_cons call, List.filter_cons, List.filter_cons, modules]
  rfl

def Authenticates (s : Scene ω) : Prop := (g.validate s).ending = .settled (.ok (some .success))

/-- The scene that the resource is called in. -/
def admitted (s : Scene ω) : Scene ω := (g.grant (g.validate s).state).state

/-- How the resource ended, and what it left to its caller. -/
def served (s : Scene ω) : Ending Response × Caller ω :=
  resource.handle (g.admitted s).exchange.request (g.admitted s).caller

/-- The scene that the resource leaves. -/
def departed (s : Scene ω) : Scene ω :=
  { g.admitted s with
    exchange := (g.admitted s).exchange.detachRequest
    attributes := (g.served resource s).2.attributes
    memory := (g.served resource s).2.memory }

/-- The scene that a response of the resource is secured in. -/
def answered (s : Scene ω) (response : Response) : Scene ω :=
  { g.departed resource s with
    exchange := { (g.departed resource s).exchange with response } }

def dispatching (s : Scene ω) : Event :=
  .dispatched (g.admitted s).attributes (g.admitted s).exchange.request

/-- The ways through the securing of a response. -/
inductive Securing (s : Scene ω) : List Event → Ending Settlement → Scene ω → Prop
  | unsettled {h} (securing : (g.secure s).ending = .halted h) :
      Securing s (Event.calls (g.secure s).journal) (.halted h) (g.secure s).state
  | delivered {v} (securing : (g.secure s).ending = .settled (.ok v)) (sends : Verdict.isSend v) :
      Securing s (Event.calls (g.secure s).journal)
        (.settled ⟨(g.secure s).state.exchange.response, .success⟩)
        { (g.secure s).state with exchange := (g.secure s).state.exchange.takeResponse }
  | withheld (securing : (g.secure s).ending = .settled (.ok (some .sendFailure))) :
      Securing s (Event.calls (g.secure s).journal)
        (.settled ⟨.bare .internalServerError, .error⟩) (g.secure s).state
  | refused {a e} (securing : (g.secure s).ending = .settled a)
      (refusal : Answer.refusal? .secureResponse a = some e) :
      Securing s
        (Event.calls (g.secure s).journal ++ (g.refuse e (g.secure s).state).journal)
        (g.refuse e (g.secure s).state).ending (g.refuse e (g.secure s).state).state

/-- The ways through the part of a run that comes before cleaning. -/
inductive Course (s : Scene ω) : List Event → Ending Settlement → Scene ω → Prop
  | unvalidated {h} (validation : (g.validate s).ending = .halted h) :
      Course s (Event.calls (g.validate s).journal) (.halted h) (g.validate s).state
  | refused {a e} (validation : (g.validate s).ending = .settled a)
      (refusal : Answer.refusal? .validateRequest a = some e) :
      Course s
        (Event.calls (g.validate s).journal ++ (g.refuse e (g.validate s).state).journal)
        (g.refuse e (g.validate s).state).ending (g.refuse e (g.validate s).state).state
  | released {v} (validation : (g.validate s).ending = .settled (.ok v))
      (sends : Verdict.isSend v) :
      Course s (Event.calls (g.validate s).journal)
        (.settled ⟨(g.validate s).state.exchange.response, .continued⟩)
        { (g.validate s).state with exchange := (g.validate s).state.exchange.takeResponse }
  | denied (validation : (g.validate s).ending = .settled (.ok (some .sendFailure))) :
      Course s (Event.calls (g.validate s).journal)
        (.settled ⟨.bare .unauthorized, .denied⟩) (g.validate s).state
  | unanswered {h} (validation : g.Authenticates s)
      (service : (g.served resource s).1 = .halted h) :
      Course s (Event.calls (g.validate s).journal ++ [g.dispatching s]) (.halted h)
        (g.departed resource s)
  | answered {response calls ending final} (validation : g.Authenticates s)
      (service : (g.served resource s).1 = .settled response)
      (securing : g.Securing (g.answered resource s response) calls ending final) :
      Course s (Event.calls (g.validate s).journal ++ g.dispatching s :: calls) ending final

@[simp] theorem calls_refuse (e : AuthError) (s : Scene ω) :
    Event.calls (g.refuse e s).journal = (g.refuse e s).journal := by
  rw [refuse_apply]
  rfl

theorem settleSecuring_securing {s : Scene ω} {a : Answer}
    (h : (g.secure s).ending = .settled a) :
    g.Securing s
      (Event.calls (g.secure s).journal ++
        Event.calls (g.settleSecuring t a (g.secure s).state).journal)
      (g.settleSecuring t a (g.secure s).state).ending
      (g.settleSecuring t a (g.secure s).state).state := by
  cases a with
  | error e => simpa [settleSecuring, say_bind] using Securing.refused h (e := e) rfl
  | ok v =>
    match v with
    | some .sendSuccess | some .sendContinue =>
      simpa [settleSecuring, release_apply] using Securing.delivered h rfl
    | some .sendFailure => simpa [settleSecuring, say_bind] using Securing.withheld h
    | some .success | some .failure | none =>
      simpa [settleSecuring, say_bind] using Securing.refused h rfl

theorem secure_securing (s : Scene ω) :
    g.Securing s (Event.calls ((g.secure >>= g.settleSecuring t) s).journal)
      ((g.secure >>= g.settleSecuring t) s).ending
      ((g.secure >>= g.settleSecuring t) s).state := by
  cases h : (g.secure s).ending with
  | halted k =>
    rw [Act.bind_of_halted h]
    exact .unsettled h
  | settled a =>
    rw [Act.settled_bind h]
    simpa using g.settleSecuring_securing t h

theorem dispatch_of_halted {s : Scene ω} {h : Halt}
    (service : (resource.handle s.exchange.request s.caller).1 = .halted h) :
    dispatch resource s =
      { ending := .halted h
        state :=
          { s with
            exchange := s.exchange.detachRequest
            attributes := (resource.handle s.exchange.request s.caller).2.attributes
            memory := (resource.handle s.exchange.request s.caller).2.memory }
        journal := [.dispatched s.attributes s.exchange.request] } := by
  change (Run.andThen ⟨(resource.handle s.exchange.request s.caller).1, _, _⟩ _).after _ = _
  rw [service]
  rfl

theorem dispatch_of_settled {s : Scene ω} {response : Response}
    (service : (resource.handle s.exchange.request s.caller).1 = .settled response) :
    dispatch resource s =
      { ending := .settled ()
        state :=
          { s with
            exchange := { s.exchange.detachRequest with response }
            attributes := (resource.handle s.exchange.request s.caller).2.attributes
            memory := (resource.handle s.exchange.request s.caller).2.memory }
        journal := [.dispatched s.attributes s.exchange.request] } := by
  change (Run.andThen ⟨(resource.handle s.exchange.request s.caller).1, _, _⟩ _).after _ = _
  rw [service]
  rfl

theorem dispatch_journal (s : Scene ω) :
    (dispatch resource s).journal = [.dispatched s.attributes s.exchange.request] := by
  cases service : (resource.handle s.exchange.request s.caller).1 with
  | halted h => rw [dispatch_of_halted resource service]
  | settled response => rw [dispatch_of_settled resource service]

theorem serve_course {s : Scene ω} (validation : g.Authenticates s) :
    g.Course resource s
      (Event.calls (g.validate s).journal ++
        Event.calls (g.serveAuthenticated t resource (g.validate s).state).journal)
      (g.serveAuthenticated t resource (g.validate s).state).ending
      (g.serveAuthenticated t resource (g.validate s).state).state := by
  have enter : g.serveAuthenticated t resource (g.validate s).state =
      ((dispatch resource >>= fun _ => g.secure >>= g.settleSecuring t) (g.admitted s)).after
        [.logged ((g.logger.forRequest t.id).record .debug "dispatching request")] := rfl
  rw [enter]
  cases service : (g.served resource s).1 with
  | halted h =>
    have dispatched := dispatch_of_halted resource service
    rw [Act.bind_of_halted (congrArg Run.ending dispatched), dispatched]
    exact .unanswered validation service
  | settled response =>
    have dispatched := dispatch_of_settled resource service
    have securing := g.secure_securing t (g.answered resource s response)
    rw [Act.settled_bind (congrArg Run.ending dispatched), dispatched]
    exact .answered validation service securing

/-- The part of a run before cleaning goes one of the ways of `Course`. -/
theorem authenticate_course (s : Scene ω) :
    g.Course resource s (Event.calls (g.authenticate t resource s).journal)
      (g.authenticate t resource s).ending (g.authenticate t resource s).state := by
  unfold authenticate
  cases h : (g.validate s).ending with
  | halted k =>
    rw [Act.bind_of_halted h]
    exact .unvalidated h
  | settled a =>
    rw [Act.settled_bind h]
    cases a with
    | error e => simpa [say_bind] using Course.refused h (e := e) rfl
    | ok v =>
      match v with
      | some .success => simpa [say_bind, settleValidation] using g.serve_course t resource h
      | some .sendSuccess | some .sendContinue =>
        simpa [say_bind, settleValidation, release_apply] using Course.released h rfl
      | some .sendFailure => simpa [say_bind, settleValidation] using Course.denied h
      | some .failure | none => simpa [say_bind, settleValidation] using Course.refused h rfl

theorem not_authenticates_of_halted {s : Scene ω} {h : Halt}
    (halted : (g.validate s).ending = .halted h) : ¬ g.Authenticates s := by
  intro success
  rw [Authenticates, halted] at success
  cases success

theorem not_authenticates_of_settled {s : Scene ω} {a : Answer}
    (settled : (g.validate s).ending = .settled a) (unsuccessful : a ≠ .ok (some .success)) :
    ¬ g.Authenticates s := by
  intro success
  rw [Authenticates, settled] at success
  cases success
  exact unsuccessful rfl

theorem not_authenticates_of_refusal {s : Scene ω} {a : Answer} {e : AuthError}
    (settled : (g.validate s).ending = .settled a)
    (refusal : Answer.refusal? .validateRequest a = some e) : ¬ g.Authenticates s := by
  apply g.not_authenticates_of_settled settled
  intro success
  rw [success] at refusal
  cases refusal

theorem not_authenticates_of_send {s : Scene ω} {v : Option Verdict}
    (settled : (g.validate s).ending = .settled (.ok v)) (sends : Verdict.isSend v = true) :
    ¬ g.Authenticates s := by
  apply g.not_authenticates_of_settled settled
  intro success
  cases success
  cases sends

section

variable {f : Event → Bool} (hf : ∀ e, e.isAuthentication = true → f e = false)
variable {g resource} {s final : Scene ω} {calls : List Event} {ending : Ending Settlement}

include hf

theorem apart_ofActivity (a : Activity) : f (.ofActivity a) = false :=
  hf _ (Event.isAuthentication_ofActivity a)

theorem filter_calls_validate : (Event.calls (g.validate s).journal).filter f = [] := by
  have aside := hf (.validating s.exchange s.client g.service) rfl
  rw [validate, filter_calls_perform (apart_ofActivity hf) _ rfl]
  simp [aside]

theorem filter_calls_secure : (Event.calls (g.secure s).journal).filter f = [] := by
  have aside := hf (.securing s.exchange g.service) rfl
  rw [secure, filter_calls_perform (apart_ofActivity hf) _ rfl]
  simp [aside]

theorem filter_refuse (e : AuthError) : (g.refuse e s).journal.filter f = [] := by
  have aside := hf (.refused s.exchange e) rfl
  rw [refuse_apply]
  simp [aside]

theorem Securing.filter_calls (securing : g.Securing s calls ending final) :
    calls.filter f = [] := by
  have secured := filter_calls_secure (g := g) (s := s) hf
  cases securing with
  | unsettled => exact secured
  | delivered => exact secured
  | withheld => exact secured
  | refused =>
    rw [List.filter_append, secured, filter_refuse hf]
    rfl

/-- Besides the authentication a course holds the call of the resource, and that only after a
validation that settles on success. -/
theorem Course.filter_calls (course : g.Course resource s calls ending final) :
    (g.Authenticates s → calls.filter f = [g.dispatching s].filter f) ∧
    (¬ g.Authenticates s → calls.filter f = []) := by
  have validated : (Event.calls (g.validate s).journal).filter f = [] := filter_calls_validate hf
  cases course with
  | unvalidated validation =>
    have denied := g.not_authenticates_of_halted validation
    exact ⟨fun success => absurd success denied, fun _ => validated⟩
  | refused validation refusal =>
    have denied := g.not_authenticates_of_refusal validation refusal
    refine ⟨fun success => absurd success denied, ?_⟩
    intro _
    rw [List.filter_append, validated, filter_refuse hf]
    rfl
  | released validation sends =>
    have denied := g.not_authenticates_of_send validation sends
    exact ⟨fun success => absurd success denied, fun _ => validated⟩
  | denied validation =>
    have denied := g.not_authenticates_of_settled validation (by simp)
    exact ⟨fun success => absurd success denied, fun _ => validated⟩
  | unanswered validation service =>
    refine ⟨?_, fun denied => absurd validation denied⟩
    intro _
    rw [List.filter_append, validated]
    rfl
  | answered validation service securing =>
    have secured := securing.filter_calls hf
    refine ⟨?_, fun denied => absurd validation denied⟩
    intro _
    rw [List.filter_append, validated, List.filter_cons, List.filter_cons, secured]
    rfl

end

end Gate

end Gatekeeper
