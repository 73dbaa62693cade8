import Gatekeeper.Proofs.Chain.Deeds

namespace Gatekeeper

variable {ω : Type}

/-- The strategy goes on after a module that answered like this. -/
def Strategy.GoesOnAfter (s : Strategy) (d : Deed ω) : Prop :=
  ∃ v, d.ending? = some (.settled (.ok v)) ∧ s.fallsThrough v = true

namespace Chain

/-- Of all these deeds, those that are done, and how that ends: they are done up to the first one
that the strategy does not go on after, or all of them if there is none. -/
inductive GoesThrough (s : Strategy) : List (Deed ω) → List (Deed ω) → Ending Answer → Prop
  | stopped {before d after ending} (passed : ∀ e ∈ before, s.GoesOnAfter e)
      (stops : ¬ s.GoesOnAfter d) (ends : d.ending?.map .contained = some ending) :
      GoesThrough s (before ++ d :: after) (before ++ [d]) ending
  | exhausted {all} (passed : ∀ e ∈ all, s.GoesOnAfter e) :
      GoesThrough s all all (.settled (.ok s.exhausted))

variable {s : Strategy} {service : Subject}

theorem GoesThrough.cons {d : Deed ω} {all asked : List (Deed ω)} {ending : Ending Answer}
    (goesOn : s.GoesOnAfter d) (rest : GoesThrough s all asked ending) :
    GoesThrough s (d :: all) (d :: asked) ending := by
  cases rest with
  | stopped passed stops ends =>
    exact .stopped (List.forall_mem_cons.mpr ⟨goesOn, passed⟩) stops ends
  | exhausted passed =>
    have both := List.forall_mem_cons.mpr ⟨goesOn, passed⟩
    exact .exhausted both

theorem GoesThrough.stop {d : Deed ω} {ending : Ending Answer} (stops : ¬ s.GoesOnAfter d)
    (ends : d.ending?.map .contained = some ending) (after : List (Deed ω)) :
    GoesThrough s (d :: after) [d] ending :=
  GoesThrough.stopped (List.forall_mem_nil _) stops ends

theorem goesOnAfter_iff (m : AuthModule ω) (place : Nat) (p : Proceeding ω) :
    s.GoesOnAfter (m.deed place p (.validation service)) ↔
      ¬ s.StopsAt (m.opinion service p).result := by
  have ending : (m.deed place p (.validation service)).ending? =
    some (m.opinion service p).result := rfl
  simp [Strategy.GoesOnAfter, Strategy.StopsAt, ending]

/-- What a walk does is what comes first if all are asked. -/
theorem goesThrough_of_asks {place : Nat} {ms : List (AuthModule ω)} {asked : List (Deed ω)}
    {ending : Ending Answer} {x y : Exchange} {held kept : Custody ω}
    (asks : Asks s service place ms asked ending) (succession : Succession x held asked y kept) :
    GoesThrough s (procession (.validation service) place ms x held) asked ending := by
  induction asks generalizing x held with
  | exhausted place => exact .exhausted (List.forall_mem_nil _)
  | @passed place m ms p v ds ending answer falls _ ih =>
    cases succession with
    | cons rest =>
      have goesOn : s.GoesOnAfter (m.deed place p (.validation service)) :=
        ⟨v, congrArg some answer, falls⟩
      exact .cons goesOn (ih rest)
  | @stopped place m ms p stops =>
    cases succession with
    | cons rest =>
      have ends : ¬ s.GoesOnAfter (m.deed place p (.validation service)) := by
        intro goesOn
        exact (goesOnAfter_iff m place p).mp goesOn stops
      exact .stop ends rfl _

/-- The candidates are asked one after the other, each about what the one before it has left, up to
the first that fails, crashes or answers what the strategy does not go on after, and the validation
ends as that one does. If there is none, all are asked and the strategy has the last word. The trail
grows by what those who were asked noted, each with its decision after it. -/
theorem validate_asks_in_turn (c : Chain ω) (service : Subject) (p : Proceeding ω) :
    let all := procession (.validation service) 0 c.candidates p.exchange p.toCustody
    let r := c.validate service p
    all.map (fun d => (d.place, d.actor, d.occasion)) =
      c.candidates.mapIdx (fun i m => (i, m, .validation service)) ∧
    ∃ asked, GoesThrough c.strategy all asked r.ending ∧
      r.journal.filter Activity.isCall = asked.map Deed.call ∧
      Succession p.exchange p.toCustody asked r.state.exchange r.state.toCustody ∧
      r.state.exchange.trail = p.exchange.trail ++ asked.flatMap Deed.entries ∧
      ∀ d ∈ asked, d.RecordsOnce .validateRequest := by
  intro all r
  obtain ⟨asked, enacts, asks⟩ := c.enacts_validate service p
  have standing := procession_standing (.validation service) 0 c.candidates p.exchange p.toCustody
  simp only [Nat.zero_add] at standing
  have reach : GoesThrough c.strategy all asked r.ending :=
    goesThrough_of_asks asks enacts.succession
  have record (d : Deed ω) (done : d ∈ asked) : d.RecordsOnce .validateRequest := by
    obtain ⟨occasion, -⟩ := asks.candidates d done
    exact Deed.recordsOnce_of_validation occasion
  exact ⟨standing, asked, reach, enacts.calls, enacts.succession, enacts.succession.trail, record⟩

end Chain

end Gatekeeper
