import Gatekeeper.Proofs.Gate.Report

namespace Gatekeeper

open Http (Request Response)

variable {ω : Type}

def Event.isClosing : Event → Bool
  | .cleaning _ _ | .audited _ => true
  | _ => false

namespace Gate

variable (g : Gate ω) (t : Ticket) (resource : Resource ω)

/-- A phase does not get to its end: it never settles, or the responder crashes over its answer. -/
inductive Blocked (phase : Phase) (r : Run (Scene ω) Event Answer) : Prop
  | unsettled {h} (unsettled : r.ending = .halted h)
  | crashed {a e crash} (settled : r.ending = .settled a)
      (refusal : Answer.refusal? phase a = some e)
      (response : (g.responder.respond r.state.exchange e r.state.memory).1 = .error crash)

/-- What keeps a run from its cleaning: a phase that is blocked, or a resource that does not
answer. -/
inductive Halts (s : Scene ω) : Prop
  | validating (blocked : g.Blocked .validateRequest (g.validate s))
  | serving {h} (validation : g.Authenticates s) (service : (g.served resource s).1 = .halted h)
  | securing {response} (validation : g.Authenticates s)
      (service : (g.served resource s).1 = .settled response)
      (blocked : g.Blocked .secureResponse (g.secure (g.answered resource s response)))

/-- A run is interrupted before its cleaning or in it. -/
def Interrupted (s : Scene ω) : Prop :=
  g.Halts resource s ∨ ∃ h, (g.cleanup t resource s).ending = .halted h

theorem not_blocked {phase : Phase} {r : Run (Scene ω) Event Answer} {v : Option Verdict}
    (settled : r.ending = .settled (.ok v)) (admitted : phase.admits v = true) :
    ¬ g.Blocked phase r := by
  intro blocked
  cases blocked with
  | unsettled unsettled =>
    rw [settled] at unsettled
    cases unsettled
  | crashed other refusal =>
    rw [settled] at other
    cases other
    simp [Answer.refusal?, admitted] at refusal

theorem refuse_halts_iff {phase : Phase} {r : Run (Scene ω) Event Answer} {a : Answer}
    {e : AuthError} (settled : r.ending = .settled a)
    (refusal : Answer.refusal? phase a = some e) :
    (∃ h, (g.refuse e r.state).ending = .halted h) ↔ g.Blocked phase r := by
  rw [refuse_apply]
  constructor
  · intro halts
    obtain ⟨h, halt⟩ := halts
    cases response : (g.responder.respond r.state.exchange e r.state.memory).1 with
    | ok _ =>
      rw [response] at halt
      cases halt
    | error crash => exact .crashed settled refusal response
  · intro blocked
    cases blocked with
    | unsettled unsettled =>
      rw [settled] at unsettled
      cases unsettled
    | crashed other refusal' response =>
      rw [settled] at other
      cases other
      rw [refusal] at refusal'
      cases refusal'
      rw [response]
      exact ⟨_, rfl⟩

theorem isSend_admitted (phase : Phase) {v : Option Verdict} (h : Verdict.isSend v = true) :
    phase.admits v = true := by
  match v with
  | some .sendSuccess | some .sendContinue => cases phase <;> rfl

section

variable {g resource}
variable {s final : Scene ω} {calls : List Event} {ending : Ending Settlement}

theorem Securing.halts_iff (securing : g.Securing s calls ending final) :
    (∃ h, ending = .halted h) ↔ g.Blocked .secureResponse (g.secure s) := by
  cases securing with
  | unsettled unsettled =>
    have blocked : g.Blocked .secureResponse (g.secure s) := .unsettled unsettled
    exact iff_of_true ⟨_, rfl⟩ blocked
  | delivered settled sends =>
    have goesOn := g.not_blocked settled (isSend_admitted .secureResponse sends)
    exact iff_of_false nofun goesOn
  | withheld settled =>
    have goesOn : ¬ g.Blocked .secureResponse (g.secure s) := g.not_blocked settled rfl
    exact iff_of_false nofun goesOn
  | refused settled refusal => exact g.refuse_halts_iff settled refusal

theorem halts_iff_of_denied (denied : ¬ g.Authenticates s) :
    g.Halts resource s ↔ g.Blocked .validateRequest (g.validate s) := by
  constructor
  · intro halts
    cases halts with
    | validating blocked => exact blocked
    | serving success => exact (denied success).elim
    | securing success => exact (denied success).elim
  · exact .validating

theorem Course.halts_iff (course : g.Course resource s calls ending final) :
    (∃ h, ending = .halted h) ↔ g.Halts resource s := by
  cases course with
  | unvalidated validation =>
    have halts : g.Halts resource s := .validating (.unsettled validation)
    exact iff_of_true ⟨_, rfl⟩ halts
  | refused validation refusal =>
    rw [halts_iff_of_denied (g.not_authenticates_of_refusal validation refusal)]
    exact g.refuse_halts_iff validation refusal
  | released validation sends =>
    have goesOn := g.not_blocked validation (isSend_admitted .validateRequest sends)
    rw [halts_iff_of_denied (g.not_authenticates_of_send validation sends)]
    exact iff_of_false nofun goesOn
  | denied validation =>
    have goesOn : ¬ g.Blocked .validateRequest (g.validate s) := g.not_blocked validation rfl
    rw [halts_iff_of_denied (g.not_authenticates_of_settled validation (by simp))]
    exact iff_of_false nofun goesOn
  | unanswered validation service =>
    have halts : g.Halts resource s := .serving validation service
    exact iff_of_true ⟨_, rfl⟩ halts
  | answered validation service securing =>
    rw [securing.halts_iff]
    constructor
    · exact .securing validation service
    · intro halts
      cases halts with
      | validating blocked => exact (g.not_blocked validation rfl blocked).elim
      | serving _ unserved =>
        rw [service] at unserved
        cases unserved
      | securing _ served blocked =>
        rw [service] at served
        cases served
        exact blocked

end

theorem authenticate_halts_iff (s : Scene ω) :
    (∃ h, (g.authenticate t resource s).ending = .halted h) ↔ g.Halts resource s :=
  (g.authenticate_course t resource s).halts_iff

variable {g resource} in
theorem settles_of_not_halts {s : Scene ω} (goesOn : ¬ g.Halts resource s) :
    ∃ settlement, (g.authenticate t resource s).ending = .settled settlement := by
  cases ending : (g.authenticate t resource s).ending with
  | settled settlement => exact ⟨settlement, rfl⟩
  | halted h =>
    have halts := (g.authenticate_halts_iff t resource s).mp ⟨h, ending⟩
    exact (goesOn halts).elim

variable {g t resource} in
theorem not_interrupted {s : Scene ω} {settlement : Settlement} {a : Except AuthError Unit}
    (settled : (g.authenticate t resource s).ending = .settled settlement)
    (cleaned : (g.cleanup t resource s).ending = .settled a) : ¬ g.Interrupted t resource s := by
  intro interrupted
  rcases interrupted with halts | ⟨h, halted⟩
  · obtain ⟨h, halted⟩ := (g.authenticate_halts_iff t resource s).mpr halts
    rw [settled] at halted
    cases halted
  · rw [cleaned] at halted
    cases halted

theorem not_isClosing {e : Event} (h : e.isAuthentication = true) : e.isClosing = false := by
  cases e <;> first | rfl | cases h

theorem closing_of_authenticate (s : Scene ω) :
    (Event.calls (g.authenticate t resource s).journal).filter Event.isClosing = [] := by
  obtain ⟨dispatched, undispatched⟩ :=
    (g.authenticate_course t resource s).filter_calls (fun _ => not_isClosing)
  by_cases success : g.Authenticates s
  · exact dispatched success
  · exact undispatched success

variable {g t resource} in
theorem Closing.of_interrupted {s : Scene ω} {principal : Option String}
    {outcome : Audit.Outcome} {ending : Ending Response}
    (closing : g.Closing t resource s principal outcome ending)
    (interrupted : g.Interrupted t resource s) :
    principal = (g.cleanup t resource s).state.principal ∧ outcome = .error := by
  cases closing with
  | abandoned => exact ⟨rfl, rfl⟩
  | uncleaned => exact ⟨rfl, rfl⟩
  | finished settled cleaning =>
    rcases interrupted with halts | ⟨h, halted⟩
    · obtain ⟨h, halted⟩ := (g.authenticate_halts_iff t resource s).mpr halts
      rw [settled] at halted
      cases halted
    · rw [cleaning] at halted
      cases halted

variable {g t resource} in
theorem Closing.of_finished {s : Scene ω} {principal : Option String}
    {outcome : Audit.Outcome} {ending : Ending Response}
    (closing : g.Closing t resource s principal outcome ending)
    (finished : ¬ g.Interrupted t resource s) :
    principal = (g.cleanup t resource s).state.attributes.principal ∧
    ∃ settlement, (g.authenticate t resource s).ending = .settled settlement ∧
      outcome = settlement.outcome := by
  cases closing with
  | abandoned halt =>
    have halts := (g.authenticate_halts_iff t resource s).mp ⟨_, halt⟩
    exact (finished (.inl halts)).elim
  | uncleaned settled cleaning =>
    have interrupted : g.Interrupted t resource s := .inr ⟨_, cleaning⟩
    exact (finished interrupted).elim
  | finished settled cleaning => exact ⟨rfl, _, settled, rfl⟩

variable {g t resource} in
theorem Closing.of_settled {s : Scene ω} {principal : Option String} {outcome : Audit.Outcome}
    {ending : Ending Response} {settlement : Settlement} {done : Except AuthError Unit}
    (closing : g.Closing t resource s principal outcome ending)
    (settled : (g.authenticate t resource s).ending = .settled settlement)
    (cleaned : (g.cleanup t resource s).ending = .settled done) :
    principal = (g.cleanup t resource s).state.attributes.principal ∧
      outcome = settlement.outcome ∧ ending = .settled settlement.response := by
  cases closing with
  | abandoned halted =>
    rw [settled] at halted
    cases halted
  | uncleaned _ halted =>
    rw [cleaned] at halted
    cases halted
  | finished settles =>
    rw [settled] at settles
    cases settles
    exact ⟨rfl, rfl, rfl⟩

theorem process_closing (fresh : String) (request : Request) (c : Caller ω) :
    let t := issue fresh request c
    let s := opening fresh request c
    let left := (g.authenticate t resource s).state
    ∃ principal outcome ending, g.Closing t resource s principal outcome ending ∧
      (g.process fresh resource request c).journal.filter Event.isClosing =
        [.cleaning left.exchange left.client,
          .audited ((g.cleanup t resource s).state.report t principal outcome)] ∧
      ((g.process fresh resource request c).ending = .halted .pending →
        ending = .halted .pending) := by
  intro t s left
  obtain ⟨principal, outcome, ending, closing, calls, -, ends⟩ :=
    g.process_reports resource fresh request c
  have uncalled : ∀ e : Event, e.isCall = false → e.isClosing = false := by
    intro e h
    cases e <;> first | rfl | cases h
  have foreign : ∀ a, (Event.ofActivity a).isClosing = false := by
    intro a
    cases a <;> rfl
  refine ⟨principal, outcome, ending, closing, ?_, ?_⟩
  · rw [← Event.filter_calls uncalled, calls, List.filter_append, List.filter_append,
      closing_of_authenticate, filter_calls_cleanup _ _ _ foreign]
    rfl
  · intro dropped
    rw [dropped] at ends
    split at ends
    · exact ends.symm
    · cases ends

end Gate

end Gatekeeper
