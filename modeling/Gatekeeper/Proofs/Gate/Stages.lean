import Gatekeeper.Proofs.Gate.Principal

namespace Gatekeeper

open Http (Request Response StatusCode)

variable {ω : Type}

/-- What is to be done with a request once a phase has ended. -/
inductive Directive where
  | serve
  | send (outcome : Audit.Outcome)
  | reject (status : StatusCode) (outcome : Audit.Outcome)
  | refuse (e : AuthError)

namespace Directive

/-- A verdict that the phase cannot end with is refused with an error that names both. -/
def violation (word : String) (phase : Phase) : Directive :=
  refuse { message := "invalid status " ++ word ++ " returned from " ++ phase.name }

def ofVerdict : Phase → Option Verdict → Directive
  | .validateRequest, some .success => serve
  | .validateRequest, some .sendSuccess | .validateRequest, some .sendContinue => send .continued
  | .validateRequest, some .sendFailure => reject .unauthorized .denied
  | .secureResponse, some .success => violation "SUCCESS" .secureResponse
  | .secureResponse, some .sendSuccess | .secureResponse, some .sendContinue => send .success
  | .secureResponse, some .sendFailure => reject .internalServerError .error
  | phase, some .failure => violation "FAILURE" phase
  | phase, none => violation "null" phase

/-- There is none for a phase that never settles. -/
def of? (phase : Phase) : Ending Answer → Option Directive
  | .settled (.ok v) => some (ofVerdict phase v)
  | .settled (.error e) => some (refuse e)
  | .halted (.crashed c) =>
    some (refuse { message := "authentication module panicked: " ++ c.message })
  | .halted .pending => none

theorem of?_refusal {phase : Phase} {ending : Ending Answer} {a : Answer} {e : AuthError}
    (settled : ending.contained = .settled a) (refusal : Answer.refusal? phase a = some e) :
    of? phase ending = some (refuse e) := by
  cases ending with
  | halted h =>
    cases h with
    | pending => cases settled
    | crashed c =>
      cases settled
      cases refusal
      rfl
  | settled b =>
    cases settled
    cases a with
    | error e =>
      cases refusal
      rfl
    | ok v =>
      match phase, v with
      | .secureResponse, some .success | .validateRequest, some .failure
      | .secureResponse, some .failure | .validateRequest, none | .secureResponse, none =>
        cases refusal
        rfl
      | .validateRequest, some .success | .validateRequest, some .sendSuccess
      | .validateRequest, some .sendContinue | .validateRequest, some .sendFailure
      | .secureResponse, some .sendSuccess | .secureResponse, some .sendContinue
      | .secureResponse, some .sendFailure => cases refusal

theorem of?_verdict (phase : Phase) {ending : Ending Answer} {v : Option Verdict}
    (settled : ending.contained = .settled (.ok v)) :
    of? phase ending = some (ofVerdict phase v) := by
  rw [Ending.contained_eq_settled_ok_iff.mp settled]
  rfl

theorem ofVerdict_validation {v : Option Verdict} (sends : Verdict.isSend v = true) :
    ofVerdict .validateRequest v = send .continued := by
  match v with
  | some .sendSuccess | some .sendContinue => rfl

theorem ofVerdict_securing {v : Option Verdict} (sends : Verdict.isSend v = true) :
    ofVerdict .secureResponse v = send .success := by
  match v with
  | some .sendSuccess | some .sendContinue => rfl

end Directive

/-- How far a request has come. The attributes are those that the resource is to get, or has
left. -/
inductive Stage (ω : Type) where
  | validating (p : Proceeding ω) (attributes : Attributes)
  | dispatching (p : Proceeding ω) (attributes : Attributes)
  | securing (p : Proceeding ω) (attributes : Attributes)
  | refusing (e : AuthError) (p : Proceeding ω)
  | cleaning (response : Response) (outcome : Audit.Outcome) (p : Proceeding ω)
  | done (response : Response) (outcome : Audit.Outcome)

namespace Event

/-- The calls of the gate itself. What the modules behind the authentication do is not among
them. -/
def isOwn : Event → Bool
  | .opened _ | .logged _ | .called _ _ _ => false
  | _ => true

theorem isOwn_ofActivity (a : Activity) : (ofActivity a).isOwn = false := by
  cases a <;> rfl

end Event

namespace Gate

variable (g : Gate ω) (t : Ticket) (resource : Resource ω)

/-- A response that is sent is taken out of the exchange as it stands; one that rejects is empty. -/
def follow (p : Proceeding ω) (attributes : Attributes) : Directive → Stage ω
  | .serve =>
    .dispatching p
      (attributes.authenticate p.resolvePrincipal g.authenticator.moduleIds p.exchange.shared)
  | .send outcome =>
    .cleaning p.exchange.response outcome { p with exchange := p.exchange.takeResponse }
  | .reject status outcome => .cleaning { status, headers := [], body := .empty } outcome p
  | .refuse e => .refusing e p

/-- The next stage, unless a phase never settles, or the resource or the responder breaks off. -/
def next? : Stage ω → Option (Stage ω)
  | .validating p attributes =>
    let r := g.authenticator.validate g.service p
    (Directive.of? .validateRequest r.ending).map (g.follow r.state attributes)
  | .dispatching p attributes =>
    let r := resource.handle p.exchange.request ⟨attributes, p.memory⟩
    match r.1 with
    | .settled response =>
      let exchange := { p.exchange.detachRequest with response }
      some (.securing { p with exchange, memory := r.2.memory } r.2.attributes)
    | .halted _ => none
  | .securing p attributes =>
    let r := g.authenticator.secure g.service p
    (Directive.of? .secureResponse r.ending).map (g.follow r.state attributes)
  | .refusing e p =>
    let r := g.responder.respond p.exchange e p.memory
    match r.1 with
    | .ok response => some (.cleaning response .error { p with memory := r.2 })
    | .error _ => none
  | .cleaning response outcome p =>
    match (g.authenticator.clean p).ending with
    | .halted .pending => none
    | _ => some (.done response outcome)
  | .done _ _ => none

/-- What the gate calls at a stage. -/
def calls : Stage ω → List Event
  | .validating p _ => [.validating p.exchange p.client g.service]
  | .dispatching p attributes => [.dispatched attributes p.exchange.request]
  | .securing p _ => [.securing p.exchange g.service]
  | .refusing e p => [.refused p.exchange e]
  | .cleaning _ _ p => [.cleaning p.exchange p.client]
  | .done _ _ => []

/-- The machine gets from one stage to another, with these calls on the way. -/
inductive Leads : Stage ω → List Event → Stage ω → Prop
  | stay (a) : Leads a [] a
  | step {a b c rest} (next : g.next? resource a = some b) (leads : Leads b rest c) :
      Leads a (g.calls a ++ rest) c

section

variable {g resource}

theorem Leads.single {a b : Stage ω} (next : g.next? resource a = some b) :
    g.Leads resource a (g.calls a) b := by
  simpa using Leads.step next (.stay b)

theorem Leads.trans {a b c : Stage ω} {i j : List Event} (first : g.Leads resource a i b)
    (second : g.Leads resource b j c) : g.Leads resource a (i ++ j) c := by
  induction first with
  | stay => exact second
  | step next _ ih =>
    rw [List.append_assoc]
    exact .step next (ih second)

/-- The machine comes to one end only, and in one way. -/
theorem Leads.unique {a : Stage ω} {i j : List Event} {r r' : Response}
    {o o' : Audit.Outcome} (h : g.Leads resource a i (.done r o))
    (h' : g.Leads resource a j (.done r' o')) : i = j ∧ r = r' ∧ o = o' := by
  generalize ends : Stage.done r o = b at h
  induction h generalizing j with
  | stay =>
    subst ends
    cases h' with
    | stay => exact ⟨rfl, rfl, rfl⟩
    | step next => cases next
  | step next _ ih =>
    cases h' with
    | stay => cases next
    | step next' leads' =>
      rw [next] at next'
      cases next'
      obtain ⟨calls, response, outcome⟩ := ih leads' ends
      exact ⟨congrArg _ calls, response, outcome⟩

end

theorem calls_of_perform {α : Type} (event : Scene ω → Event) (d : Duty ω (Except AuthError α))
    (s : Scene ω) (own : (event s).isOwn = true) :
    (Event.calls (perform event d s).journal).filter Event.isOwn = [event s] := by
  have call : (event s).isCall = true := by
    revert own
    cases event s <;> first | exact id | exact fun h => nomatch h
  rw [filter_calls_perform Event.isOwn_ofActivity d call]
  simp [own]

section

variable {g resource}
variable {s final : Scene ω} {calls : List Event} {ending : Ending Settlement}
  {settlement : Settlement}

theorem validation_leads {d : Directive}
    (directed : Directive.of? .validateRequest
      (g.authenticator.validate g.service s.toProceeding).ending = some d) :
    g.Leads resource (.validating s.toProceeding s.attributes)
      ((Event.calls (g.validate s).journal).filter Event.isOwn)
      (g.follow (g.validate s).state.toProceeding (g.validate s).state.attributes d) := by
  have next : g.next? resource (.validating s.toProceeding s.attributes) =
      some (g.follow (g.validate s).state.toProceeding (g.validate s).state.attributes d) := by
    rw [next?, directed, validate, perform_apply]
    rfl
  rw [validate, calls_of_perform _ _ _ rfl]
  exact .single next

theorem securing_leads {d : Directive} (attributes : Attributes)
    (directed : Directive.of? .secureResponse
      (g.authenticator.secure g.service s.toProceeding).ending = some d) :
    g.Leads resource (.securing s.toProceeding attributes)
      ((Event.calls (g.secure s).journal).filter Event.isOwn)
      (g.follow (g.secure s).state.toProceeding attributes d) := by
  have next : g.next? resource (.securing s.toProceeding attributes) =
      some (g.follow (g.secure s).state.toProceeding attributes d) := by
    rw [next?, directed, secure, perform_apply]
    rfl
  rw [secure, calls_of_perform _ _ _ rfl]
  exact .single next

theorem refusal_leads {e : AuthError} (settled : (g.refuse e s).ending = .settled settlement) :
    g.Leads resource (.refusing e s.toProceeding) ((g.refuse e s).journal.filter Event.isOwn)
      (.cleaning settlement.response settlement.outcome (g.refuse e s).state.toProceeding) := by
  rw [refuse_apply] at settled ⊢
  cases answer : (g.responder.respond s.exchange e s.memory).1 with
  | error c =>
    rw [answer] at settled
    cases settled
  | ok response =>
    rw [answer] at settled
    cases settled
    have next : g.next? resource (.refusing e s.toProceeding) =
        some (.cleaning response .error
          { s.toProceeding with memory := (g.responder.respond s.exchange e s.memory).2 }) := by
      rw [next?, answer]
    exact .single next

theorem Securing.leads (securing : g.Securing s calls ending final) (attributes : Attributes)
    (settled : ending = .settled settlement) :
    g.Leads resource (.securing s.toProceeding attributes) (calls.filter Event.isOwn)
      (.cleaning settlement.response settlement.outcome final.toProceeding) := by
  have contained := g.secure_ending s
  cases securing with
  | unsettled => cases settled
  | delivered secured sends =>
    have directed := Directive.of?_verdict .secureResponse (contained.symm.trans secured)
    rw [Directive.ofVerdict_securing sends] at directed
    cases settled
    exact securing_leads attributes directed
  | withheld secured =>
    have directed := Directive.of?_verdict .secureResponse (contained.symm.trans secured)
    cases settled
    exact securing_leads attributes directed
  | refused secured refusal =>
    have directed := Directive.of?_refusal (contained.symm.trans secured) refusal
    have refused : g.Leads resource _ _ _ := securing_leads attributes directed
    rw [List.filter_append]
    exact refused.trans (refusal_leads settled)

theorem Course.leads (course : g.Course resource s calls ending final)
    (settled : ending = .settled settlement) :
    g.Leads resource (.validating s.toProceeding s.attributes) (calls.filter Event.isOwn)
      (.cleaning settlement.response settlement.outcome final.toProceeding) := by
  have contained := g.validate_ending s
  cases course with
  | unvalidated => cases settled
  | refused validated refusal =>
    have directed := Directive.of?_refusal (contained.symm.trans validated) refusal
    have refused : g.Leads resource _ _ _ := validation_leads directed
    rw [List.filter_append]
    exact refused.trans (refusal_leads settled)
  | released validated sends =>
    have directed := Directive.of?_verdict .validateRequest (contained.symm.trans validated)
    rw [Directive.ofVerdict_validation sends] at directed
    cases settled
    exact validation_leads directed
  | denied validated =>
    have directed := Directive.of?_verdict .validateRequest (contained.symm.trans validated)
    cases settled
    exact validation_leads directed
  | unanswered => cases settled
  | @answered response calls _ _ validated service securing =>
    have directed := Directive.of?_verdict .validateRequest (contained.symm.trans validated)
    have validation : g.Leads resource _ _ _ := validation_leads directed
    have secured : g.Leads resource _ _ _ :=
      securing.leads (g.departed resource s).attributes settled
    have next : g.next? resource
        (.dispatching (g.admitted s).toProceeding (g.admitted s).attributes) =
        some (.securing (g.answered resource s response).toProceeding
          (g.departed resource s).attributes) := by
      have answer : (resource.handle (g.admitted s).exchange.request
          ⟨(g.admitted s).attributes, (g.admitted s).memory⟩).1 = .settled response := service
      rw [next?, answer]
      rfl
    rw [List.filter_append]
    exact validation.trans ((Leads.single next).trans secured)

end

variable {g t resource} in
theorem leads_of_finished {s : Scene ω} {settlement : Settlement} {a : Except AuthError Unit}
    (settled : (g.authenticate t resource s).ending = .settled settlement)
    (cleaned : (g.cleanup t resource s).ending = .settled a) :
    g.Leads resource (.validating s.toProceeding s.attributes)
      ((Event.calls (g.authenticate t resource s).journal ++
        Event.calls (g.cleanup t resource s).journal).filter Event.isOwn)
      (.done settlement.response settlement.outcome) := by
  have cleaning : g.next? resource (.cleaning settlement.response settlement.outcome
      (g.authenticate t resource s).state.toProceeding) =
      some (.done settlement.response settlement.outcome) := by
    have contained : (g.authenticator.clean
        (g.authenticate t resource s).state.toProceeding).ending.contained = .settled a := by
      rw [← cleaned, cleanup, clean, perform_apply]
    rw [next?]
    split
    · next pending =>
      rw [pending] at contained
      cases contained
    · rfl
  have course := (g.authenticate_course t resource s).leads settled
  rw [List.filter_append, cleanup, clean, calls_of_perform _ _ _ rfl]
  exact course.trans (.single cleaning)

variable {g t resource} in
theorem Closing.leads {s : Scene ω} {principal : Option String} {outcome : Audit.Outcome}
    {ending : Ending Response} {response : Response}
    (closing : g.Closing t resource s principal outcome ending)
    (ended : ending = .settled response) :
    g.Leads resource (.validating s.toProceeding s.attributes)
      ((Event.calls (g.authenticate t resource s).journal ++
        Event.calls (g.cleanup t resource s).journal).filter Event.isOwn)
      (.done response outcome) := by
  cases closing with
  | abandoned => cases ended
  | uncleaned => cases ended
  | finished settled cleaned =>
    cases ended
    exact leads_of_finished settled cleaned

variable {g t resource} in
theorem Closing.settles {s : Scene ω} {principal : Option String} {outcome : Audit.Outcome}
    {ending : Ending Response} (closing : g.Closing t resource s principal outcome ending)
    (uninterrupted : ¬ g.Interrupted t resource s) : ∃ response, ending = .settled response := by
  cases closing with
  | abandoned halted =>
    have halts := (g.authenticate_halts_iff t resource s).mp ⟨_, halted⟩
    exact (uninterrupted (.inl halts)).elim
  | uncleaned _ halted => exact (uninterrupted (.inr ⟨_, halted⟩)).elim
  | finished => exact ⟨_, rfl⟩

/-- A run that nothing interrupts makes the calls that lead the machine to its end, and the one
call of the sink after them. It returns the response and audits the outcome that the machine ends
with, and the machine can end with no other. -/
theorem process_follows_stages (fresh : String) (request : Request) (c : Caller ω)
    (uninterrupted :
      ¬ g.Interrupted (issue fresh request c) resource (opening fresh request c)) :
    let start : Stage ω :=
      .validating (opening fresh request c).toProceeding (opening fresh request c).attributes
    ∃ calls response event,
      g.Leads resource start calls (.done response event.outcome) ∧
      (∀ calls' response' outcome', g.Leads resource start calls' (.done response' outcome') →
        calls' = calls ∧ response' = response ∧ outcome' = event.outcome) ∧
      (g.process fresh resource request c).journal.filter Event.isOwn =
        calls ++ [.audited event] ∧
      ((g.process fresh resource request c).ending = .settled response ∨
        ∃ memory crash, (g.sink.receive event memory).answer = .error crash ∧
          (g.process fresh resource request c).ending = .halted (.crashed crash)) := by
  intro start
  let t := issue fresh request c
  let s := opening fresh request c
  obtain ⟨principal, outcome, ending, closing, calls, -, ends⟩ :=
    g.process_reports resource fresh request c
  obtain ⟨response, settled⟩ := closing.settles uninterrupted
  have leads := closing.leads settled
  have uncalled : ∀ e : Event, e.isCall = false → e.isOwn = false := by
    intro e h
    cases e <;> first | rfl | cases h
  refine ⟨_, response, (g.cleanup t resource s).state.report t principal outcome, leads, ?_, ?_, ?_⟩
  · intro calls' response' outcome' other
    exact other.unique leads
  · rw [← Event.filter_calls uncalled, calls, List.filter_append]
    rfl
  · rw [settled] at ends
    cases answer : (g.sink.receive _ _).answer with
    | ok taken =>
      rw [answer] at ends
      exact .inl ends
    | error crash =>
      rw [answer] at ends
      exact .inr ⟨_, crash, answer, ends⟩

/-- An authenticated request whose response cannot be secured, since the module crashes over it. -/
theorem process_follows_stages_of_crash :
    let crashing : AuthModule Audit.Ledger :=
      { admitting "alice" with
        secure := fun _ x memory =>
          { result := .halted (.crashed (.text "no key")), draft := x.toDraft, kept := memory } }
    let g : Gate Audit.Ledger :=
      { sink := .recording
        responder := Negotiator.toResponder {}
        authenticator := Chain.toAuthenticator { modules := [crashing] } }
    let resource : Resource Audit.Ledger := ⟨fun _ c => (.settled {}, c)⟩
    let caller : Caller Audit.Ledger := ⟨{}, {}⟩
    let s := opening "1" {} caller
    ¬ g.Interrupted (issue "1" {} caller) resource s ∧
    ∃ calls response event,
      g.Leads resource (.validating s.toProceeding s.attributes) calls
        (.done response event.outcome) ∧
      (g.process "1" resource {} caller).journal.filter Event.isOwn =
        calls ++ [.audited event] := by
  intro crashing g resource caller s
  have uninterrupted : ¬ g.Interrupted (issue "1" {} caller) resource s :=
    not_interrupted rfl rfl
  obtain ⟨calls, response, event, leads, -, made, -⟩ :=
    g.process_follows_stages resource "1" {} caller uninterrupted
  exact ⟨uninterrupted, calls, response, event, leads, made⟩

end Gate

end Gatekeeper
