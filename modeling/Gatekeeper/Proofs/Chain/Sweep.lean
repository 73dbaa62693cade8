import Gatekeeper.Proofs.Chain.Deeds

namespace Gatekeeper

variable {ω : Type}

namespace Deed

/-- The module never gets done with its cleaning. -/
def Waits (d : Deed ω) : Prop := (d.actor.clean d.exchange d.held).result = .halted .pending

/-- What goes wrong when the module cleans: a failure of its own, or a crash. -/
def failure? (d : Deed ω) : Option AuthError :=
  match (d.actor.clean d.exchange d.held).result with
  | .settled (.error e) => some e
  | .halted (.crashed c) => some { message := "authentication module panicked: " ++ c.message }
  | .settled (.ok ()) | .halted .pending => none

/-- The log record that tells of the failure. -/
def complaint? (d : Deed ω) : Option Log.Record :=
  d.failure?.map (uncleanRecord d.exchange.id d.actor.id)

/-- All that is noted of the cleaning: the call, and right after it what went wrong. -/
def trace (d : Deed ω) : List Activity := d.call :: (d.complaint?.map .logged).toList

end Deed

def Activity.record? : Activity → Option Log.Record
  | .called _ _ _ => none
  | .logged r => some r

namespace Deed

theorem filter_isCall_trace (d : Deed ω) : d.trace.filter Activity.isCall = [d.call] := by
  unfold trace
  cases d.complaint? <;> rfl

theorem record?_trace (d : Deed ω) : d.trace.filterMap Activity.record? = d.complaint?.toList := by
  unfold trace
  cases d.complaint? <;> rfl

theorem filter_isCall_traces (ds : List (Deed ω)) :
    (ds.flatMap trace).filter Activity.isCall = ds.map call := by
  rw [List.filter_flatMap]
  simp only [filter_isCall_trace]
  exact List.map_eq_flatMap.symm

end Deed

/-- The first failure counts. -/
def firstOf (a others : Except AuthError Unit) : Except AuthError Unit :=
  match a with
  | .error e => .error e
  | .ok () => others

/-- The result of a cleaning that these modules got done with. -/
def verdictOf (ds : List (Deed ω)) : Except AuthError Unit :=
  match ds.findSome? Deed.failure? with
  | some e => .error e
  | none => .ok ()

/-- Of all these deeds, those that are done, and how that ends: all of them are done unless one
never settles, and then those up to the first of that kind. -/
inductive Sweeps : List (Deed ω) → List (Deed ω) → Ending (Except AuthError Unit) → Prop
  | finished {all} (settle : ∀ d ∈ all, ¬ d.Waits) : Sweeps all all (.settled (verdictOf all))
  | stuck {before d after} (settle : ∀ e ∈ before, ¬ e.Waits) (waits : d.Waits) :
      Sweeps (before ++ d :: after) (before ++ [d]) (.halted .pending)

namespace Deed

/-- How a module ends that cleans, once a crash of it counts as a failure. -/
def cleans (d : Deed ω) : Ending (Except AuthError Unit) :=
  (d.actor.clean d.exchange d.held).result.contained

theorem cleans_of_waits {d : Deed ω} (waits : d.Waits) : d.cleans = .halted .pending :=
  congrArg Ending.contained waits

theorem failure?_eq (d : Deed ω) :
    d.failure? =
      match d.cleans with
      | .settled (.error e) => some e
      | _ => none := by
  unfold failure? cleans
  match (d.actor.clean d.exchange d.held).result with
  | .settled (.ok ()) | .settled (.error e) | .halted (.crashed c) | .halted .pending => rfl

end Deed

theorem verdictOf_cons {d : Deed ω} {a : Except AuthError Unit} (settled : d.cleans = .settled a)
    (ds : List (Deed ω)) : verdictOf (d :: ds) = firstOf a (verdictOf ds) := by
  have failed := d.failure?_eq
  rw [settled] at failed
  unfold verdictOf
  rw [List.findSome?_cons, failed]
  cases a <;> rfl

theorem Sweeps.cons {d : Deed ω} {a : Except AuthError Unit} {all done : List (Deed ω)}
    {ending : Ending (Except AuthError Unit)} (settled : d.cleans = .settled a)
    (rest : Sweeps all done ending) : Sweeps (d :: all) (d :: done) (ending.map (firstOf a)) := by
  have settles : ¬ d.Waits := by
    intro waits
    rw [Deed.cleans_of_waits waits] at settled
    cases settled
  cases rest with
  | finished settle =>
    have noneWaits : ∀ e ∈ d :: all, ¬ e.Waits := List.forall_mem_cons.mpr ⟨settles, settle⟩
    have whole := Sweeps.finished noneWaits
    rw [verdictOf_cons settled] at whole
    exact whole
  | @stuck before _ _ settle waits =>
    have noneWaits : ∀ e ∈ d :: before, ¬ e.Waits := List.forall_mem_cons.mpr ⟨settles, settle⟩
    exact .stuck noneWaits waits

namespace AuthModule

variable (m : AuthModule ω) (place : Nat) (p : Proceeding ω)

theorem attemptCleaning_apply :
    m.attemptCleaning place p =
      { ending := (m.deed place p .cleaning).cleans
        state :=
          { p with
            toCustody := (m.deed place p .cleaning).visit.kept
            exchange := (m.deed place p .cleaning).leaves }
        journal := (m.deed place p .cleaning).trace } := by
  let d := m.deed place p .cleaning
  have cleaned : (m.cleanAt place).guarded p =
      { ending := d.cleans
        state := { p with toCustody := d.visit.kept, exchange := d.leaves }
        journal := [d.call] } := by
    rw [Act.guarded_apply, Deed.leaves, Deed.entries_of_unrecorded rfl]
    rfl
  have failed : d.failure? = _ := d.failure?_eq
  have trace : d.trace = d.call :: (d.complaint?.map Activity.logged).toList := rfl
  rw [trace, Deed.complaint?, failed]
  unfold attemptCleaning
  cases ending : d.cleans with
  | halted k =>
    rw [ending] at cleaned
    have ended := congrArg Run.ending cleaned
    rw [Act.bind_of_halted ended, cleaned]
    rfl
  | settled a =>
    rw [ending] at cleaned
    have ended := congrArg Run.ending cleaned
    rw [Act.settled_bind ended, cleaned]
    cases a <;> rfl

end AuthModule

namespace Chain

theorem cleanFrom_cons_of_settled {m : AuthModule ω} {place : Nat} {p : Proceeding ω}
    {a : Except AuthError Unit} (settled : (m.attemptCleaning place p).ending = .settled a)
    (ms : List (AuthModule ω)) :
    let rest := cleanFrom (place + 1) ms (m.attemptCleaning place p).state
    (cleanFrom place (m :: ms) p).ending = rest.ending.map (firstOf a) ∧
      (cleanFrom place (m :: ms) p).journal =
        (m.attemptCleaning place p).journal ++ rest.journal := by
  intro rest
  rw [cleanFrom, Act.settled_bind settled]
  cases ending : rest.ending with
  | halted k =>
    rw [Act.bind_of_halted ending]
    exact ⟨rfl, rfl⟩
  | settled others =>
    rw [Act.settled_bind ending]
    cases a <;> exact ⟨rfl, congrArg _ (List.append_nil _)⟩

/-- Cleaning goes through the candidates, each about what the one before it has left. -/
theorem cleanFrom_sweeps (place : Nat) (ms : List (AuthModule ω)) (p : Proceeding ω) :
    ∃ done, Sweeps (procession .cleaning place ms p.exchange p.toCustody) done
        (cleanFrom place ms p).ending ∧
      (cleanFrom place ms p).journal = done.flatMap Deed.trace := by
  induction ms generalizing place p with
  | nil => exact ⟨[], .finished (List.forall_mem_nil _), rfl⟩
  | cons m ms ih =>
    let d := m.deed place p .cleaning
    have first := m.attemptCleaning_apply place p
    have ends : (m.attemptCleaning place p).ending = d.cleans := congrArg Run.ending first
    have traced : (m.attemptCleaning place p).journal = d.trace := congrArg Run.journal first
    by_cases waits : d.Waits
    · have halted := ends.trans (Deed.cleans_of_waits waits)
      rw [cleanFrom, Act.bind_of_halted halted, traced]
      refine ⟨[] ++ [d], .stuck (List.forall_mem_nil _) waits, ?_⟩
      rw [List.nil_append, List.flatMap_singleton]
    · obtain ⟨a, settled⟩ : ∃ a, d.cleans = .settled a := Ending.contained_settles waits
      obtain ⟨ending, journal⟩ := cleanFrom_cons_of_settled (ends.trans settled) ms
      obtain ⟨done, sweeps, traces⟩ := ih (place + 1) (m.attemptCleaning place p).state
      rw [first] at sweeps
      rw [ending, journal, traced, traces, first]
      exact ⟨d :: done, sweeps.cons settled, List.flatMap_cons.symm⟩

theorem clean_sweeps (c : Chain ω) (p : Proceeding ω) :
    ∃ done, Sweeps (procession .cleaning 0 c.candidates p.exchange p.toCustody) done
        (c.clean p).ending ∧
      (c.clean p).journal = done.flatMap Deed.trace :=
  cleanFrom_sweeps 0 c.candidates p

end Chain

end Gatekeeper
