import Gatekeeper.Proofs.Chain.Walk

namespace Gatekeeper

open Act (Keeps)

variable {ω : Type}

/-- Something that happens to a proceeding: a chain works on it, or others change what of it they
can reach, which is all but the place of the candidate that vouches for it. -/
inductive Turn (ω : Type) where
  | validate (service : Subject)
  | secure (service : Subject)
  | clean
  | others (custody : Custody ω) (exchange : Exchange)

def Turn.isValidation : Turn ω → Bool
  | validate _ => true
  | _ => false

namespace AuthModule

variable (m : AuthModule ω) (place : Nat)

theorem decideSecuring_keeps (service : Subject) :
    Keeps Proceeding.vouchedBy (m.decideSecuring place service) := by
  have secures : Keeps Proceeding.vouchedBy (m.secureAt place service) := fun _ => rfl
  refine secures.guarded.bind ?_
  intro a
  have notes : Keeps Proceeding.vouchedBy
      (noteDecision m.id .secureResponse a : Duty ω Unit) := fun _ => rfl
  exact notes.bind fun _ => .pure a

theorem attemptCleaning_keeps : Keeps Proceeding.vouchedBy (m.attemptCleaning place) := by
  have cleans : Keeps Proceeding.vouchedBy (m.cleanAt place) := fun _ => rfl
  refine cleans.guarded.bind ?_
  intro a
  cases a with
  | ok _ => exact .pure _
  | error e =>
    refine Keeps.get.bind ?_
    intro p
    exact (Keeps.emit _).bind fun _ => .pure _

end AuthModule

namespace Chain

variable (c : Chain ω)

theorem secureSession_keeps (service : Subject) (place : Nat) (v : Option Verdict) :
    Keeps Proceeding.vouchedBy (c.secureSession service place v) := by
  unfold secureSession
  split
  · split
    · exact AuthModule.decideSecuring_keeps _ _ _
    · exact .pure _
  · exact .pure _

theorem secure_keeps (service : Subject) : Keeps Proceeding.vouchedBy (c.secure service) := by
  refine .bind .get ?_
  intro p
  split
  · exact .pure _
  · split
    · exact .pure _
    · refine .bind (AuthModule.decideSecuring_keeps _ _ _) ?_
      intro a
      cases a with
      | error e => exact .pure _
      | ok v => exact c.secureSession_keeps service _ v

theorem cleanFrom_keeps (place : Nat) (ms : List (AuthModule ω)) :
    Keeps Proceeding.vouchedBy (cleanFrom place ms) := by
  induction ms generalizing place with
  | nil => exact .pure _
  | cons m ms ih =>
    refine (m.attemptCleaning_keeps place).bind ?_
    intro first
    refine (ih (place + 1)).bind ?_
    intro others
    cases first with
    | ok _ => exact .pure _
    | error e => exact .pure _

theorem clean_keeps : Keeps Proceeding.vouchedBy c.clean := cleanFrom_keeps 0 c.candidates

/-- The candidates before the one at this place are passed over, and it answers success, which the
strategy does not go on after. -/
def Elects (service : Subject) (p : Proceeding ω) (place : Nat) : Prop :=
  ∃ before m after vs q, c.candidates = before ++ m :: after ∧ before.length = place ∧
    Consulted service p before vs q ∧ c.strategy.PassesOver vs ∧
    c.strategy.fallsThrough (some .success) = false ∧
    (m.opinion service q).result = .settled (.ok (some .success))

variable {c}

theorem Elects.candidate {service : Subject} {p : Proceeding ω} {place : Nat}
    (elects : c.Elects service p place) : ∃ m, c.candidates[place]? = some m := by
  obtain ⟨before, m, after, _, _, split, rfl, -⟩ := elects
  exact ⟨m, by simp [split]⟩

theorem consulted_keeps {service : Subject} {p q : Proceeding ω} {ms : List (AuthModule ω)}
    {vs : List (Option Verdict)} (path : Consulted service p ms vs q) :
    q.vouchedBy = p.vouchedBy := by
  induction path with
  | nil => rfl
  | cons _ _ ih => exact ih

theorem concludes_keeps (m : AuthModule ω) (place : Nat) (service : Subject) (p : Proceeding ω)
    {a : Answer} (unsuccessful : a ≠ .ok (some .success)) :
    (m.concludes place service p a).vouchedBy = p.vouchedBy := by
  match a with
  | .ok (some .success) => exact (unsuccessful rfl).elim
  | .ok (some .sendSuccess) | .ok (some .sendContinue) | .ok (some .sendFailure)
  | .ok (some .failure) | .ok none => rfl
  | .error e => rfl

theorem validate_vouchedBy_of_elects {service : Subject} {p : Proceeding ω} {place : Nat}
    (elects : c.Elects service { p with vouchedBy := none } place) :
    (c.validate service p).state.vouchedBy = some place := by
  obtain ⟨before, m, after, vs, q, split, rfl, path, passes, last, answer⟩ := elects
  have stops : c.strategy.StopsAt (m.opinion service q).result := by
    intro v settled
    rw [answer] at settled
    cases settled
    exact last
  have contained := Ending.contained_eq_settled_ok_iff.mpr answer
  obtain ⟨journal, walked⟩ := walk_append path passes 0 (m :: after)
  rw [validate_apply, split, walked, Run.after_state, walk_cons_of_decided contained stops,
    Nat.zero_add]
  rfl

theorem elects_of_validate_vouchedBy {service : Subject} {p : Proceeding ω} {place : Nat}
    (vouches : (c.validate service p).state.vouchedBy = some place) :
    c.Elects service { p with vouchedBy := none } place := by
  rcases passed_or_stopped c.strategy service { p with vouchedBy := none } c.candidates with
    ⟨vs, q, path, passes⟩ | ⟨before, m, after, vs, q, split, path, passes, stops⟩
  · obtain ⟨journal, walked⟩ := walk_append path passes 0 []
    have unvouched : (c.validate service p).state.vouchedBy = none := by
      rw [validate_apply, ← List.append_nil c.candidates, walked]
      exact consulted_keeps path
    rw [unvouched] at vouches
    cases vouches
  · obtain ⟨journal, walked⟩ := walk_append path passes 0 (m :: after)
    have unvouched : q.vouchedBy = none := consulted_keeps path
    rw [validate_apply, split, walked, Run.after_state] at vouches
    cases ending : (m.opinion service q).result.contained with
    | halted k =>
      rw [walk_cons_of_halted ending] at vouches
      have kept : q.vouchedBy = some _ := vouches
      rw [unvouched] at kept
      cases kept
    | settled a =>
      rw [walk_cons_of_decided ending stops] at vouches
      by_cases success : a = .ok (some .success)
      · rw [success, Nat.zero_add] at vouches
        rw [success] at ending
        have answer := Ending.contained_eq_settled_ok_iff.mp ending
        exact ⟨before, m, after, vs, q, split, Option.some.inj vouches, path, passes,
          stops _ answer, answer⟩
      · rw [concludes_keeps m _ service q success, unvouched] at vouches
        cases vouches

variable (c)

/-- The proceeding after a turn, whether the turn settled, failed or was given up. -/
def takeTurn (p : Proceeding ω) : Turn ω → Proceeding ω
  | .validate service => (c.validate service p).state
  | .secure service => (c.secure service p).state
  | .clean => (c.clean p).state
  | .others custody exchange => { p with toCustody := custody, exchange }

def replay (turns : List (Turn ω)) (p : Proceeding ω) : Proceeding ω := turns.foldl c.takeTurn p

/-- The last validation among the turns stops with success at the candidate of this place. -/
def LastElects (turns : List (Turn ω)) (p : Proceeding ω) (place : Nat) : Prop :=
  ∃ earlier service later, turns = earlier ++ .validate service :: later ∧
    (∀ turn ∈ later, turn.isValidation = false) ∧
    c.Elects service { c.replay earlier p with vouchedBy := none } place

theorem replay_append (earlier later : List (Turn ω)) (p : Proceeding ω) :
    c.replay (earlier ++ later) p = c.replay later (c.replay earlier p) :=
  List.foldl_append

theorem takeTurn_keeps {turn : Turn ω} (other : turn.isValidation = false) (p : Proceeding ω) :
    (c.takeTurn p turn).vouchedBy = p.vouchedBy := by
  cases turn with
  | validate service => cases other
  | secure service => exact c.secure_keeps service p
  | clean => exact c.clean_keeps p
  | others custody exchange => rfl

theorem replay_keeps {turns : List (Turn ω)}
    (others : ∀ turn ∈ turns, turn.isValidation = false) (p : Proceeding ω) :
    (c.replay turns p).vouchedBy = p.vouchedBy := by
  induction turns generalizing p with
  | nil => rfl
  | cons turn turns ih =>
    obtain ⟨now, later⟩ := List.forall_mem_cons.mp others
    have kept := c.takeTurn_keeps now p
    have keptOn := ih later (c.takeTurn p turn)
    exact keptOn.trans kept

/-- Either no turn is a validation, or one is the last. -/
theorem last_validation (turns : List (Turn ω)) :
    (∀ turn ∈ turns, turn.isValidation = false) ∨
    ∃ earlier service later, turns = earlier ++ .validate service :: later ∧
      ∀ turn ∈ later, turn.isValidation = false := by
  induction turns with
  | nil => exact .inl (by simp)
  | cons turn turns ih =>
    rcases ih with others | ⟨earlier, service, later, split, others⟩
    · cases turn with
      | validate service => exact .inr ⟨[], service, turns, rfl, others⟩
      | secure _ => exact .inl (List.forall_mem_cons.mpr ⟨rfl, others⟩)
      | clean => exact .inl (List.forall_mem_cons.mpr ⟨rfl, others⟩)
      | others _ _ => exact .inl (List.forall_mem_cons.mpr ⟨rfl, others⟩)
    · exact .inr ⟨turn :: earlier, service, later, by rw [split]; rfl, others⟩

theorem replay_vouchedBy_iff {turns : List (Turn ω)} {p : Proceeding ω}
    (start : p.vouchedBy = none) (place : Nat) :
    (c.replay turns p).vouchedBy = some place ↔ c.LastElects turns p place := by
  have after (earlier later : List (Turn ω)) (service : Subject)
      (others : ∀ turn ∈ later, turn.isValidation = false) :
      (c.replay (earlier ++ .validate service :: later) p).vouchedBy =
        (c.validate service (c.replay earlier p)).state.vouchedBy := by
    rw [replay_append]
    exact c.replay_keeps others _
  constructor
  · intro vouches
    rcases last_validation turns with others | ⟨earlier, service, later, rfl, others⟩
    · rw [c.replay_keeps others, start] at vouches
      cases vouches
    · rw [after earlier later service others] at vouches
      have elects := elects_of_validate_vouchedBy vouches
      exact ⟨earlier, service, later, rfl, others, elects⟩
  · intro elects
    obtain ⟨earlier, service, later, rfl, others, elects⟩ := elects
    rw [after earlier later service others]
    exact validate_vouchedBy_of_elects elects

/-- What comes after the module that authenticated has secured. -/
def secureFurther (service : Subject) (place : Nat) : Answer → Duty ω Answer
  | .error e => return .error e
  | .ok v => c.secureSession service place v

variable {c}

theorem authenticatedBy?_of_unvouched {p : Proceeding ω} (unvouched : p.vouchedBy = none) :
    c.authenticatedBy? p = none := by
  rw [authenticatedBy?, unvouched]
  rfl

theorem secure_of_nobody {p : Proceeding ω} (nobody : c.authenticatedBy? p = none)
    (service : Subject) :
    c.secure service p = { ending := .settled (.ok (some .sendSuccess)), state := p } := by
  unfold secure
  rw [Act.get_bind]
  cases vouched : p.vouchedBy with
  | none => rfl
  | some place =>
    rw [authenticatedBy?, vouched] at nobody
    have found : c.candidates[place]? = none := nobody
    simp only [found]
    rfl

theorem secure_of_authenticated {p : Proceeding ω} {place : Nat} {m : AuthModule ω}
    (vouched : p.vouchedBy = some place) (found : c.candidates[place]? = some m)
    (service : Subject) :
    c.secure service p =
      (m.decideSecuring place service >>= c.secureFurther service place) p := by
  unfold secure
  rw [Act.get_bind, vouched]
  simp only [found]
  rfl

variable (c)

theorem secure_of_unvouched {p : Proceeding ω} (unvouched : p.vouchedBy = none)
    (service : Subject) : (c.secure service p).journal = [] := by
  rw [secure_of_nobody (authenticatedBy?_of_unvouched unvouched)]

theorem secure_of_vouched {p : Proceeding ω} {place : Nat} {m : AuthModule ω}
    (vouched : p.vouchedBy = some place) (found : c.candidates[place]? = some m)
    (service : Subject) :
    [.called place m.id (.secure p.exchange service)] <+: (c.secure service p).journal := by
  have called : [.called place m.id (.secure p.exchange service)] <+:
      (m.decideSecuring place service p).journal := by
    have guard : ((m.secureAt place service).guarded p).journal =
        [.called place m.id (.secure p.exchange service)] := by
      rw [Act.guarded_apply]
      rfl
    rw [← guard]
    exact Act.journal_prefix_bind _ _ _
  rw [secure_of_authenticated vouched found]
  exact called.trans (Act.journal_prefix_bind _ _ _)

/-- After any turns that begin with an exchange which nobody vouches for, the module that
authenticated it is the candidate which the last validation stopped at with success, and there is
none if there is no such validation. Its place is one of a candidate, and it is the first that a
securing calls. -/
theorem replay_authenticatedBy_iff (turns : List (Turn ω)) (custody : Custody ω)
    (exchange : Exchange) :
    let start : Proceeding ω := { toCustody := custody, exchange, vouchedBy := none }
    let p := c.replay turns start
    (∀ place, p.vouchedBy = some place ↔ c.LastElects turns start place) ∧
    (∀ m, c.authenticatedBy? p = some m ↔
      ∃ place, c.LastElects turns start place ∧ c.candidates[place]? = some m) ∧
    (∀ place, p.vouchedBy = some place → ∃ m, c.candidates[place]? = some m ∧
      c.authenticatedBy? p = some m ∧ ∀ service,
        [.called place m.id (.secure p.exchange service)] <+: (c.secure service p).journal) ∧
    (p.vouchedBy = none → c.authenticatedBy? p = none ∧
      ∀ service, (c.secure service p).journal = []) := by
  intro start p
  have vouched (place : Nat) : p.vouchedBy = some place ↔ c.LastElects turns start place :=
    c.replay_vouchedBy_iff rfl place
  refine ⟨vouched, ?_, ?_, ?_⟩
  · intro m
    rw [authenticatedBy?, Option.bind_eq_some_iff]
    simp only [vouched]
  · intro place vouches
    obtain ⟨_, _, _, _, _, elects⟩ := (vouched place).mp vouches
    obtain ⟨m, found⟩ := elects.candidate
    have authenticated : c.authenticatedBy? p = some m := by
      rw [authenticatedBy?, vouches]
      exact found
    exact ⟨m, found, authenticated, c.secure_of_vouched vouches found⟩
  · intro unvouched
    exact ⟨authenticatedBy?_of_unvouched unvouched, c.secure_of_unvouched unvouched⟩

end Chain

end Gatekeeper
