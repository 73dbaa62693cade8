import Gatekeeper.Chain.Phases
import Gatekeeper.Proofs.Gate.Cleanup

namespace Gatekeeper

open Http (Request Response)

variable {ω α : Type}

def Event.isAudit : Event → Bool
  | .audited _ => true
  | _ => false

namespace Gate

variable (g : Gate ω) {t : Ticket} (resource : Resource ω) {s : Scene ω}

theorem unaudited (t : Ticket) (s : Scene ω) :
    (Event.calls (g.authenticate t resource s).journal).filter Event.isAudit = [] := by
  rw [List.filter_eq_nil_iff]
  intro e made audit
  have closes : e.isClosing = true := by cases e <;> first | rfl | cases audit
  have closing := List.mem_filter.mpr ⟨made, closes⟩
  rw [g.closing_of_authenticate t resource s] at closing
  cases closing

/-- The audit that ends the calls of a run is the only one. -/
theorem audit_of_calls {journal : List Event} {e : Audit.Event}
    (calls : Event.calls journal = Event.calls (g.authenticate t resource s).journal ++
      Event.calls (g.cleanup t resource s).journal ++ [.audited e]) :
    journal.filter Event.isAudit = [.audited e] := by
  have uncalled : ∀ e : Event, e.isCall = false → e.isAudit = false := by
    intro e h
    cases e <;> first | rfl | cases h
  have foreign : ∀ a, (Event.ofActivity a).isAudit = false := by
    intro a
    cases a <;> rfl
  rw [← Event.filter_calls uncalled, calls, List.filter_append, List.filter_append, unaudited,
    filter_calls_cleanup _ _ _ foreign]
  rfl

variable {g resource} in
/-- A run that finishes has settled, is cleaned, and is audited under the principal that the
attributes hold. -/
theorem finished_of_process {fresh : String} {request : Request} {caller : Caller ω}
    {response : Response}
    (finished : (g.process fresh resource request caller).ending = .settled response) :
    let t := issue fresh request caller
    let s := opening fresh request caller
    let final := (g.cleanup t resource s).state
    ∃ settlement done, (g.authenticate t resource s).ending = .settled settlement ∧
      (g.cleanup t resource s).ending = .settled done ∧ settlement.response = response ∧
      (g.process fresh resource request caller).journal.filter Event.isAudit =
        [.audited (final.report t final.attributes.principal settlement.outcome)] := by
  intro t s final
  obtain ⟨principal, outcome, ending, closing, calls, -, ends⟩ :=
    g.process_reports resource fresh request caller
  have ended : ending = .settled response := by
    rw [finished] at ends
    split at ends
    · exact ends.symm
    · cases ends
  have audited := g.audit_of_calls resource calls
  cases closing with
  | abandoned => cases ended
  | uncleaned => cases ended
  | finished settled cleaned =>
    cases ended
    exact ⟨_, _, settled, cleaned, rfl, audited⟩

end Gate

/-- What phases and responder leave alone. -/
structure Scene.Keeps (s s' : Scene ω) : Prop where
  attributes : s'.attributes = s.attributes
  principal : s'.principal = s.principal

namespace Scene.Keeps

theorem refl (s : Scene ω) : s.Keeps s := ⟨rfl, rfl⟩

theorem trans {s s' s'' : Scene ω} (h : s.Keeps s') (h' : s'.Keeps s'') : s.Keeps s'' :=
  ⟨h'.attributes.trans h.attributes, h'.principal.trans h.principal⟩

end Scene.Keeps

namespace Gate

variable (g : Gate ω) (t : Ticket) (resource : Resource ω)

theorem perform_keeps (event : Scene ω → Event) (d : Duty ω (Except AuthError α)) (s : Scene ω) :
    s.Keeps (perform event d s).state := by
  rw [perform_apply]
  exact ⟨rfl, rfl⟩

theorem refuse_keeps (e : AuthError) (s : Scene ω) : s.Keeps (g.refuse e s).state := by
  rw [refuse_apply]
  exact ⟨rfl, rfl⟩

section

variable {g resource}
variable {s final : Scene ω} {calls : List Event} {ending : Ending Settlement}

theorem Securing.keeps (securing : g.Securing s calls ending final) : s.Keeps final := by
  have secured : s.Keeps (g.secure s).state := perform_keeps _ _ s
  cases securing with
  | unsettled => exact secured
  | delivered => exact secured.trans ⟨rfl, rfl⟩
  | withheld => exact secured
  | refused => exact secured.trans (g.refuse_keeps _ _)

theorem Course.keeps (course : g.Course resource s calls ending final) :
    (g.Authenticates s → (g.departed resource s).Keeps final) ∧
    (¬ g.Authenticates s → s.Keeps final) := by
  have validated : s.Keeps (g.validate s).state := perform_keeps _ _ s
  cases course with
  | unvalidated validation =>
    have denied := g.not_authenticates_of_halted validation
    exact ⟨fun success => absurd success denied, fun _ => validated⟩
  | @refused _ e validation refusal =>
    have denied := g.not_authenticates_of_refusal validation refusal
    have refused := validated.trans (g.refuse_keeps e (g.validate s).state)
    exact ⟨fun success => absurd success denied, fun _ => refused⟩
  | released validation sends =>
    have denied := g.not_authenticates_of_send validation sends
    exact ⟨fun success => absurd success denied, fun _ => validated.trans ⟨rfl, rfl⟩⟩
  | denied validation =>
    have denied := g.not_authenticates_of_settled validation (by simp)
    exact ⟨fun success => absurd success denied, fun _ => validated⟩
  | unanswered validation service =>
    exact ⟨fun _ => .refl _, fun denied => absurd validation denied⟩
  | @answered response _ _ _ validation service securing =>
    have answered : (g.departed resource s).Keeps (g.answered resource s response) := ⟨rfl, rfl⟩
    have secured := answered.trans securing.keeps
    exact ⟨fun _ => secured, fun denied => absurd validation denied⟩

end

/-- The principal of a run: the one it resolves after its validation has settled on success. -/
def principalOf (s : Scene ω) : Option String :=
  match (g.validate s).ending with
  | .settled (.ok (some .success)) => (g.validate s).state.resolvePrincipal
  | _ => none

theorem principalOf_of_authenticates {s : Scene ω} (h : g.Authenticates s) :
    g.principalOf s = (g.validate s).state.resolvePrincipal := by
  rw [principalOf, h]

theorem principalOf_of_denied {s : Scene ω} (h : ¬ g.Authenticates s) : g.principalOf s = none := by
  unfold principalOf
  split
  · next success => exact (h success).elim
  · rfl

/-- The principal in the attributes that a run leaves to its caller. -/
def principalLeft (s : Scene ω) : Option String :=
  match (g.validate s).ending with
  | .settled (.ok (some .success)) => (g.served resource s).2.attributes.principal
  | _ => s.attributes.principal

theorem principalLeft_of_authenticates {s : Scene ω} (h : g.Authenticates s) :
    g.principalLeft resource s = (g.served resource s).2.attributes.principal := by
  rw [principalLeft, h]

theorem principalLeft_of_denied {s : Scene ω} (h : ¬ g.Authenticates s) :
    g.principalLeft resource s = s.attributes.principal := by
  unfold principalLeft
  split
  · next success => exact (h success).elim
  · rfl

theorem cleanup_principal {s : Scene ω} (start : s.principal = none) :
    (g.cleanup t resource s).state.principal = g.principalOf s ∧
    (g.cleanup t resource s).state.attributes.principal = g.principalLeft resource s := by
  obtain ⟨admitted, turnedAway⟩ := (g.authenticate_course t resource s).keeps
  have cleaned : (g.authenticate t resource s).state.Keeps (g.cleanup t resource s).state :=
    perform_keeps _ _ _
  by_cases success : g.Authenticates s
  · have kept := (admitted success).trans cleaned
    rw [g.principalOf_of_authenticates success, g.principalLeft_of_authenticates resource success]
    exact ⟨kept.principal, congrArg Attributes.principal kept.attributes⟩
  · have kept := (turnedAway success).trans cleaned
    rw [g.principalOf_of_denied success, g.principalLeft_of_denied resource success]
    exact ⟨kept.principal.trans start, congrArg Attributes.principal kept.attributes⟩

/-- A run is audited under its own principal when it is interrupted, and otherwise only when the
resource left that principal in the attributes, or, in a run that does not authenticate, when the
caller had put none there. -/
theorem process_audits_principal (fresh : String) (request : Request) (c : Caller ω) :
    let t := issue fresh request c
    let s := opening fresh request c
    ∃ e, (g.process fresh resource request c).journal.filter Event.isAudit = [.audited e] ∧
      (g.Interrupted t resource s → e.principal = g.principalOf s) ∧
      (¬ g.Interrupted t resource s → e.principal = g.principalLeft resource s) ∧
      (e.principal = g.principalOf s ↔
        g.Interrupted t resource s ∨
        g.Authenticates s ∧
          (g.served resource s).2.attributes.principal = (g.validate s).state.resolvePrincipal ∨
        ¬ g.Authenticates s ∧ c.attributes.principal = none) := by
  intro t s
  obtain ⟨principal, outcome, ending, closing, calls, -⟩ :=
    g.process_closing resource fresh request c
  obtain ⟨own, left⟩ := g.cleanup_principal t resource (s := s) rfl
  have interrupted (h : g.Interrupted t resource s) : principal = g.principalOf s :=
    (closing.of_interrupted h).1.trans own
  have finished (h : ¬ g.Interrupted t resource s) : principal = g.principalLeft resource s :=
    (closing.of_finished h).1.trans left
  refine ⟨(g.cleanup t resource s).state.report t principal outcome, ?_, interrupted, finished, ?_⟩
  · have audits : (g.process fresh resource request c).journal.filter Event.isAudit =
        ((g.process fresh resource request c).journal.filter Event.isClosing).filter
          Event.isAudit := by
      rw [List.filter_filter]
      congr 1
      funext e
      cases e <;> rfl
    rw [audits, calls]
    rfl
  · change principal = g.principalOf s ↔ _
    by_cases halted : g.Interrupted t resource s
    · exact ⟨fun _ => .inl halted, fun _ => interrupted halted⟩
    -- Here the attributes answer for the run, and they are not its own record.
    · rw [finished halted]
      by_cases success : g.Authenticates s
      · rw [g.principalOf_of_authenticates success,
          g.principalLeft_of_authenticates resource success]
        simp [halted, success]
      · rw [g.principalOf_of_denied success, g.principalLeft_of_denied resource success]
        have start : s.attributes.principal = c.attributes.principal := rfl
        simp [halted, success, start]

/-- A module that lets every request in under a name. -/
def admitting (name : String) : AuthModule ω where
  id := "admitting"
  validate _ x held :=
    { result := .settled (.ok (some .success))
      draft := x.toDraft
      kept := { held with client := held.client.addPrincipal ⟨name⟩ } }
  secure _ x memory :=
    { result := .settled (.ok (some .sendSuccess)), draft := x.toDraft, kept := memory }
  clean x held := { result := .settled (.ok ()), draft := x.toDraft, kept := held }

/-- A module that names a principal and then says that the credentials are not its own. -/
def deferring (name : String) : AuthModule ω :=
  { admitting name with
    id := "deferring"
    validate := fun service x held =>
      { (admitting name).validate service x held with
        result := .settled (.ok (some .sendFailure)) } }

/-- A denied request is audited under the name of an earlier run, and one that was let in under no
name when the resource has replaced the attributes. -/
theorem process_audits_another_principal :
    let gate (c : Chain Audit.Ledger) : Gate Audit.Ledger :=
      { sink := .recording
        responder := Negotiator.toResponder {}
        authenticator := c.toAuthenticator }
    let replacing : Resource Audit.Ledger := ⟨fun _ c => (.settled {}, { c with attributes := {} })⟩
    let again : Caller Audit.Ledger := ⟨{ principal := some "alice" }, {}⟩
    let anew : Caller Audit.Ledger := ⟨{}, {}⟩
    (∃ e, ((gate {}).process "1" replacing {} again).journal.filter Event.isAudit = [.audited e] ∧
      e.principal = some "alice" ∧ (gate {}).principalOf (opening "1" {} again) = none) ∧
    (∃ e, ((gate { modules := [admitting "alice"] }).process "1" replacing {} anew).journal.filter
        Event.isAudit = [.audited e] ∧
      e.principal = none ∧
      (gate { modules := [admitting "alice"] }).principalOf (opening "1" {} anew) =
        some "alice") := by
  intro gate replacing again anew
  refine ⟨⟨_, rfl, rfl, rfl⟩, ⟨_, rfl, rfl, rfl⟩⟩

end Gate

end Gatekeeper
