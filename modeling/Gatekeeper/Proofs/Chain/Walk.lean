import Gatekeeper.Chain.Phases
import Gatekeeper.Proofs.Act

namespace Gatekeeper

variable {ω ρ : Type}

def Proceeding.accept (p : Proceeding ω) (v : Visit (Custody ω) ρ) : Proceeding ω :=
  { p with toCustody := v.kept, exchange := p.exchange.revise v.draft v.notes }

namespace AuthModule

section

variable {visit : Duty ω Answer} {p : Proceeding ω}

theorem decide_of_settled {a : Answer} (h : (visit p).ending.contained = .settled a)
    (m : AuthModule ω) (phase : Phase) :
    m.decide phase visit p =
      { ending := .settled a
        state := (visit p).state.recordDecision m.id phase a
        journal := (visit p).journal ++
          [.logged (decisionRecord (visit p).state.exchange.id m.id phase a)] } := by
  have guard : (visit.guarded p).ending = .settled a := by
    rw [Act.guarded_apply]
    exact h
  unfold AuthModule.decide
  rw [Act.settled_bind guard, Act.guarded_apply]
  rfl

theorem decide_of_halted {k : Halt} (h : (visit p).ending.contained = .halted k)
    (m : AuthModule ω) (phase : Phase) :
    m.decide phase visit p =
      { ending := .halted k, state := (visit p).state, journal := (visit p).journal } := by
  have guard : (visit.guarded p).ending = .halted k := by
    rw [Act.guarded_apply]
    exact h
  unfold AuthModule.decide
  rw [Act.bind_of_halted guard, Act.guarded_apply]

end

/-- What a module makes of the request, asked on its own. -/
def opinion (m : AuthModule ω) (service : Subject) (p : Proceeding ω) :
    Visit (Custody ω) (Ending Answer) :=
  m.validate service p.exchange p.toCustody

/-- The proceeding that the next candidate is asked about, once `m` has answered. -/
def leaves (m : AuthModule ω) (service : Subject) (p : Proceeding ω) (a : Answer) : Proceeding ω :=
  (p.accept (m.opinion service p)).recordDecision m.id .validateRequest a

/-- The proceeding that a walk leaves which stops at `m`; success makes `m` vouch for it. -/
def concludes (m : AuthModule ω) (place : Nat) (service : Subject) (p : Proceeding ω) :
    Answer → Proceeding ω
  | .ok (some .success) =>
    { m.leaves service p (.ok (some .success)) with vouchedBy := some place }
  | a => m.leaves service p a

theorem decideValidation_of_settled {m : AuthModule ω} {service : Subject} {p : Proceeding ω}
    {a : Answer} (h : (m.opinion service p).result.contained = .settled a) (place : Nat) :
    m.decideValidation place service p =
      { ending := .settled a
        state := m.leaves service p a
        journal :=
          [.called place m.id (.validate p.exchange p.client service),
            .logged (decisionRecord p.exchange.id m.id .validateRequest a)] } :=
  decide_of_settled h m .validateRequest

theorem decideValidation_of_halted {m : AuthModule ω} {service : Subject} {p : Proceeding ω}
    {k : Halt} (h : (m.opinion service p).result.contained = .halted k) (place : Nat) :
    m.decideValidation place service p =
      { ending := .halted k
        state := p.accept (m.opinion service p)
        journal := [.called place m.id (.validate p.exchange p.client service)] } :=
  decide_of_halted h m .validateRequest

end AuthModule

/-- Asked one after the other from `p` on, the modules all settle, with these verdicts, and the
last one leaves `q`. -/
inductive Consulted (service : Subject) :
    Proceeding ω → List (AuthModule ω) → List (Option Verdict) → Proceeding ω → Prop
  | nil (p) : Consulted service p [] [] p
  | cons {p m v ms vs q} (settles : (m.opinion service p).result = .settled (.ok v))
      (rest : Consulted service (m.leaves service p (.ok v)) ms vs q) :
      Consulted service p (m :: ms) (v :: vs) q

namespace Strategy

/-- The strategy goes on after all of these verdicts. -/
def PassesOver (s : Strategy) (vs : List (Option Verdict)) : Prop :=
  ∀ v ∈ vs, s.fallsThrough v = true

/-- The strategy does not go on after a module that ended this way. -/
def StopsAt (s : Strategy) (e : Ending Answer) : Prop :=
  ∀ v, e = .settled (.ok v) → s.fallsThrough v = false

end Strategy

/-- Either all modules are passed over, or there is a first one that the strategy stops at. -/
theorem passed_or_stopped (s : Strategy) (service : Subject) (p : Proceeding ω)
    (ms : List (AuthModule ω)) :
    (∃ vs q, Consulted service p ms vs q ∧ s.PassesOver vs) ∨
    (∃ before m after vs q, ms = before ++ m :: after ∧ Consulted service p before vs q ∧
      s.PassesOver vs ∧ s.StopsAt (m.opinion service q).result) := by
  -- Each module is asked about the proceeding that the last one has left.
  induction ms generalizing p with
  | nil => exact .inl ⟨[], p, .nil p, by simp [Strategy.PassesOver]⟩
  | cons m ms ih =>
    by_cases stops : s.StopsAt (m.opinion service p).result
    · exact .inr ⟨[], m, ms, [], p, rfl, .nil p, by simp [Strategy.PassesOver], stops⟩
    · obtain ⟨v, settles, falls⟩ : ∃ v, (m.opinion service p).result = .settled (.ok v) ∧
          s.fallsThrough v = true := by
        simpa [Strategy.StopsAt] using stops
      rcases ih (m.leaves service p (.ok v)) with ⟨vs, q, path, passes⟩ |
        ⟨before, n, after, vs, q, split, path, passes, stop⟩
      · have all : s.PassesOver (v :: vs) := List.forall_mem_cons.mpr ⟨falls, passes⟩
        exact .inl ⟨v :: vs, q, .cons settles path, all⟩
      · have all : s.PassesOver (v :: vs) := List.forall_mem_cons.mpr ⟨falls, passes⟩
        have whole : m :: ms = (m :: before) ++ n :: after := congrArg (List.cons m) split
        exact .inr ⟨m :: before, n, after, v :: vs, q, whole, .cons settles path, all, stop⟩

namespace Chain

variable {s : Strategy} {service : Subject} {p q : Proceeding ω} {m : AuthModule ω}
  {vs : List (Option Verdict)}

theorem walk_cons_of_passed {v : Option Verdict}
    (h : (m.opinion service p).result = .settled (.ok v)) (falls : s.fallsThrough v = true)
    (place : Nat) (ms : List (AuthModule ω)) :
    walk s service place (m :: ms) p =
      (walk s service (place + 1) ms (m.leaves service p (.ok v))).after
        (m.decideValidation place service p).journal := by
  have contained := Ending.contained_eq_settled_ok_iff.mpr h
  have step := AuthModule.decideValidation_of_settled contained place
  rw [walk, Act.settled_bind (congrArg Run.ending step), step]
  simp [falls]

theorem walk_append {ms : List (AuthModule ω)} (h : Consulted service p ms vs q)
    (falls : s.PassesOver vs) (place : Nat) (rest : List (AuthModule ω)) :
    ∃ journal, walk s service place (ms ++ rest) p =
      (walk s service (place + ms.length) rest q).after journal := by
  induction h generalizing place with
  | nil p => exact ⟨[], rfl⟩
  | @cons p m v ms vs q settles _ ih =>
    obtain ⟨now, later⟩ := List.forall_mem_cons.mp falls
    obtain ⟨journal, step⟩ := ih later (place + 1)
    refine ⟨(m.decideValidation place service p).journal ++ journal, ?_⟩
    rw [List.cons_append, walk_cons_of_passed settles now, step, Run.after_after,
      List.length_cons, Nat.add_right_comm, Nat.add_assoc]

/-- A candidate whose answer the walk stops at has the last word. -/
theorem walk_cons_of_decided {a : Answer}
    (h : (m.opinion service p).result.contained = .settled a)
    (stops : s.StopsAt (m.opinion service p).result) (place : Nat) (rest : List (AuthModule ω)) :
    walk s service place (m :: rest) p =
      { ending := .settled a
        state := m.concludes place service p a
        journal := (m.decideValidation place service p).journal } := by
  have step := AuthModule.decideValidation_of_settled h place
  rw [walk, Act.settled_bind (congrArg Run.ending step), step]
  cases a with
  | error e => rfl
  | ok v =>
    have falls := stops v (Ending.contained_eq_settled_ok_iff.mp h)
    match v with
    | some .success =>
      simp only [falls]
      rfl
    | some .sendSuccess | some .sendContinue | some .sendFailure | some .failure | none =>
      simp [falls, AuthModule.concludes, Run.after]

theorem walk_cons_of_halted {k : Halt} (h : (m.opinion service p).result.contained = .halted k)
    (place : Nat) (rest : List (AuthModule ω)) :
    walk s service place (m :: rest) p =
      { ending := .halted k
        state := p.accept (m.opinion service p)
        journal := (m.decideValidation place service p).journal } := by
  have step := AuthModule.decideValidation_of_halted h place
  rw [walk, Act.bind_of_halted (congrArg Run.ending step), step]

/-- The walk ends as the first candidate ends that it stops at. -/
theorem walk_cons_ending (stops : s.StopsAt (m.opinion service p).result) (place : Nat)
    (rest : List (AuthModule ω)) :
    (walk s service place (m :: rest) p).ending = (m.opinion service p).result.contained := by
  cases h : (m.opinion service p).result.contained with
  | halted k => rw [walk_cons_of_halted h]
  | settled a => rw [walk_cons_of_decided h stops]

/-- What it takes for a validation to settle on success: the first candidate that is not passed
over answers success, or all are passed over and the strategy says success in the end. -/
def Succeeds (c : Chain ω) (service : Subject) (p : Proceeding ω) : Prop :=
  (∃ before m after vs q, c.candidates = before ++ m :: after ∧ Consulted service p before vs q ∧
    c.strategy.PassesOver vs ∧ c.strategy.fallsThrough (some .success) = false ∧
    (m.opinion service q).result = .settled (.ok (some .success))) ∨
  (∃ vs q, Consulted service p c.candidates vs q ∧ c.strategy.PassesOver vs ∧
    c.strategy.exhausted = some .success)

theorem validate_apply (c : Chain ω) (service : Subject) (p : Proceeding ω) :
    c.validate service p =
      walk c.strategy service 0 c.candidates { p with vouchedBy := none } := rfl

theorem validate_ending_of_stopped {c : Chain ω} {before after : List (AuthModule ω)}
    (split : c.candidates = before ++ m :: after)
    (path : Consulted service { p with vouchedBy := none } before vs q)
    (passes : c.strategy.PassesOver vs) (stops : c.strategy.StopsAt (m.opinion service q).result) :
    (c.validate service p).ending = (m.opinion service q).result.contained := by
  obtain ⟨journal, walked⟩ := walk_append path passes 0 (m :: after)
  rw [validate_apply, split, walked, Run.after_ending, walk_cons_ending stops]

theorem validate_ending_of_passed {c : Chain ω}
    (path : Consulted service { p with vouchedBy := none } c.candidates vs q)
    (passes : c.strategy.PassesOver vs) :
    (c.validate service p).ending = .settled (.ok c.strategy.exhausted) := by
  obtain ⟨journal, walked⟩ := walk_append path passes 0 []
  rw [List.append_nil] at walked
  rw [validate_apply, walked]
  rfl

theorem validate_settles_on_success_iff (c : Chain ω) (service : Subject) (p : Proceeding ω) :
    (c.validate service p).ending = .settled (.ok (some .success)) ↔
      c.Succeeds service { p with vouchedBy := none } := by
  constructor
  · intro success
    rcases passed_or_stopped c.strategy service { p with vouchedBy := none } c.candidates with
      ⟨vs, q, path, passes⟩ | ⟨before, m, after, vs, q, split, path, passes, stops⟩
    · have ending := validate_ending_of_passed path passes
      rw [success] at ending
      have exhausted : c.strategy.exhausted = some .success := by simpa [eq_comm] using ending
      exact .inr ⟨vs, q, path, passes, exhausted⟩
    · have ending := validate_ending_of_stopped split path passes stops
      rw [success] at ending
      have answer := Ending.contained_eq_settled_ok_iff.mp ending.symm
      exact .inl ⟨before, m, after, vs, q, split, path, passes, stops _ answer, answer⟩
  · intro succeeds
    rcases succeeds with ⟨before, m, after, vs, q, split, path, passes, last, answer⟩ |
      ⟨vs, q, path, passes, exhausted⟩
    · have stops : c.strategy.StopsAt (m.opinion service q).result := by
        intro v hv
        rw [answer] at hv
        cases hv
        exact last
      rw [validate_ending_of_stopped split path passes stops]
      exact Ending.contained_eq_settled_ok_iff.mpr answer
    · rw [validate_ending_of_passed path passes, exhausted]

/-- At the first match the candidate that answers success comes after candidates which all say
that the credentials are not theirs. -/
theorem succeeds_of_firstMatch_iff {c : Chain ω} (first : c.strategy = .firstMatch) :
    c.Succeeds service p ↔
      ∃ before m after vs q, c.candidates = before ++ m :: after ∧
        Consulted service p before vs q ∧ (∀ v ∈ vs, v = some .sendFailure) ∧
        (m.opinion service q).result = .settled (.ok (some .success)) := by
  have passes (vs : List (Option Verdict)) :
      c.strategy.PassesOver vs ↔ ∀ v ∈ vs, v = some .sendFailure := by
    simp [Strategy.PassesOver, first, Strategy.firstMatch]
  have last : c.strategy.fallsThrough (some .success) = false := by
    rw [first]
    rfl
  have open_ended : c.strategy.exhausted ≠ some .success := by
    rw [first]
    simp [Strategy.firstMatch]
  constructor
  · intro succeeds
    rcases succeeds with ⟨before, m, after, vs, q, split, path, passed, -, answer⟩ |
      ⟨vs, q, -, -, exhausted⟩
    · exact ⟨before, m, after, vs, q, split, path, (passes vs).mp passed, answer⟩
    · exact (open_ended exhausted).elim
  · intro first
    obtain ⟨before, m, after, vs, q, split, path, passed, answer⟩ := first
    exact .inl ⟨before, m, after, vs, q, split, path, (passes vs).mpr passed, last, answer⟩

end Chain

end Gatekeeper
