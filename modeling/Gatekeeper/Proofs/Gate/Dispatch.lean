import Gatekeeper.Assembly.Plan
import Gatekeeper.Proofs.Chain.Walk
import Gatekeeper.Proofs.Gate.Report

namespace Gatekeeper

open Http (Request Response)

variable {ω : Type}

def Event.isDispatch : Event → Bool
  | .dispatched _ _ => true
  | _ => false

namespace Gate

variable (g : Gate ω) (c : Chain ω) (t : Ticket) (resource : Resource ω)

/-- The gate with a chain behind it. -/
def fronting : Gate ω := { g with authenticator := c.toAuthenticator }

/-- Every gate that a plan builds has a chain behind it. -/
theorem fronting_of_build {plan : Plan ω} {memory : ω}
    (built : (plan.build memory).ending = .settled (.ok g)) :
    ∃ c : Chain ω, c.strategy = plan.strategy ∧ g = g.fronting c := by
  unfold Plan.build at built
  cases taken : plan.sink with
  | none =>
    rw [taken] at built
    cases built
  | some sink =>
    rw [taken] at built
    obtain ⟨a, chained, built⟩ := Act.bind_settles built
    cases a with
    | error e => cases built
    | ok c =>
      cases built
      refine ⟨c, ?_, rfl⟩
      unfold Plan.setUpChain at chained
      obtain ⟨session, -, chained⟩ := Act.bind_settles chained
      cases session with
      | error e => cases chained
      | ok session =>
        obtain ⟨modules, -, chained⟩ := Act.bind_settles chained
        cases modules with
        | error e => cases chained
        | ok modules =>
          cases chained
          rfl

theorem authenticates_iff_succeeds (s : Scene ω) :
    (g.fronting c).Authenticates s ↔
      c.Succeeds g.service { s.toProceeding with vouchedBy := none } := by
  have validation : ((g.fronting c).validate s).ending =
      (c.validate g.service s.toProceeding).ending.contained := (g.fronting c).validate_ending s
  rw [Authenticates, validation, Ending.contained_eq_settled_ok_iff,
    c.validate_settles_on_success_iff]

theorem not_isDispatch {e : Event} (h : e.isAuthentication = true) : e.isDispatch = false := by
  cases e <;> first | rfl | cases h

theorem filter_dispatch (fresh : String) (request : Request) (caller : Caller ω) :
    let s := opening fresh request caller
    (g.Authenticates s →
      (g.process fresh resource request caller).journal.filter Event.isDispatch =
        [g.dispatching s]) ∧
    (¬ g.Authenticates s →
      (g.process fresh resource request caller).journal.filter Event.isDispatch = []) := by
  intro s
  let t := issue fresh request caller
  obtain ⟨_, _, _, -, calls, -, -⟩ := g.process_reports resource fresh request caller
  have foreign : ∀ a, (Event.ofActivity a).isDispatch = false := by
    intro a
    cases a <;> rfl
  have uncalled : ∀ e : Event, e.isCall = false → e.isDispatch = false := by
    intro e h
    cases e <;> first | rfl | cases h
  have cleaning : (Event.calls (g.cleanup t resource s).journal).filter Event.isDispatch = [] :=
    g.filter_calls_cleanup t resource foreign s
  have whole : (g.process fresh resource request caller).journal.filter Event.isDispatch =
      (Event.calls (g.authenticate t resource s).journal).filter Event.isDispatch := by
    rw [← Event.filter_calls uncalled, calls, List.filter_append, List.filter_append, cleaning,
      List.append_nil]
    exact List.append_nil _
  rw [whole]
  exact (g.authenticate_course t resource s).filter_calls (fun _ => not_isDispatch)

/-- The one call of the resource that a run may make. -/
theorem mem_dispatched_iff {fresh : String} {request : Request} {caller : Caller ω}
    {attributes : Attributes} {sent : Request} :
    .dispatched attributes sent ∈ (g.process fresh resource request caller).journal ↔
      g.Authenticates (opening fresh request caller) ∧
        .dispatched attributes sent = g.dispatching (opening fresh request caller) := by
  obtain ⟨called, uncalled⟩ := g.filter_dispatch resource fresh request caller
  have filtered : .dispatched attributes sent ∈ (g.process fresh resource request caller).journal ↔
      .dispatched attributes sent ∈
        (g.process fresh resource request caller).journal.filter Event.isDispatch := by
    rw [List.mem_filter]
    exact (and_iff_left rfl).symm
  rw [filtered]
  by_cases success : g.Authenticates (opening fresh request caller)
  · rw [called success, List.mem_singleton]
    exact (and_iff_right success).symm
  · rw [uncalled success]
    simp [success]

end Gate

end Gatekeeper
