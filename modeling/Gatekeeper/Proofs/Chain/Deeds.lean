import Gatekeeper.Proofs.Chain.Walk

namespace Gatekeeper

variable {ω α β : Type}

/-- A phase that never settles gives no decision, and one that crashes a failure. -/
def Audit.Decision.of? : Ending Answer → Option Audit.Decision
  | .settled (.ok v) => some (.settled v)
  | .settled (.error e) => some (.failed e.message)
  | .halted (.crashed c) => some (.failed ("authentication module panicked: " ++ c.message))
  | .halted .pending => none

def Audit.Decision.ofAnswer : Answer → Audit.Decision
  | .ok v => .settled v
  | .error e => .failed e.message

namespace Audit.Decision

variable {ending : Ending Answer}

theorem of?_of_settled {a : Answer} (settled : ending.contained = .settled a) :
    of? ending = some (ofAnswer a) := by
  match ending with
  | .settled (.ok v) | .settled (.error e) | .halted (.crashed c) =>
    cases settled
    rfl
  | .halted .pending => cases settled

theorem of?_of_halted {k : Halt} (halted : ending.contained = .halted k) : of? ending = none := by
  match ending with
  | .settled _ | .halted (.crashed c) => cases halted
  | .halted .pending => rfl

end Audit.Decision

inductive Occasion where
  | validation (service : Subject)
  | securing (service : Subject)
  | cleaning

/-- One phase of one module, with the exchange it is called for and what it is given to hold. -/
structure Deed (ω : Type) where
  place : Nat
  actor : AuthModule ω
  occasion : Occasion
  exchange : Exchange
  held : Custody ω

namespace Deed

/-- What the module makes of it. Cleaning ends in nothing that is to be recorded. -/
def visit (d : Deed ω) : Visit (Custody ω) (Option (Phase × Ending Answer)) :=
  match d.occasion with
  | .validation service =>
    (d.actor.validate service d.exchange d.held).map fun ending => some (.validateRequest, ending)
  | .securing service =>
    let v := d.actor.secure service d.exchange d.held.memory
    { result := some (.secureResponse, v.result)
      draft := v.draft
      notes := v.notes
      kept := { d.held with memory := v.kept } }
  | .cleaning => (d.actor.clean d.exchange d.held).map fun _ => none

def call (d : Deed ω) : Activity :=
  .called d.place d.actor.id <|
    match d.occasion with
    | .validation service => .validate d.exchange d.held.client service
    | .securing service => .secure d.exchange service
    | .cleaning => .clean d.exchange d.held.client

def decision? (d : Deed ω) : Option Audit.Entry :=
  d.visit.result.bind fun (phase, ending) =>
    (Audit.Decision.of? ending).map fun decision => ⟨d.actor.id, phase, decision⟩

/-- What comes to the trail: what the module noted itself, and then its decision. -/
def entries (d : Deed ω) : List Audit.Entry := d.visit.notes ++ d.decision?.toList

def leaves (d : Deed ω) : Exchange := d.exchange.revise d.visit.draft d.entries

/-- How the module ended, if it had to answer. -/
def ending? (d : Deed ω) : Option (Ending Answer) := d.visit.result.map Prod.snd

end Deed

/-- What these modules do on one occasion, each about what the one before it has left. -/
def procession (occasion : Occasion) :
    Nat → List (AuthModule ω) → Exchange → Custody ω → List (Deed ω)
  | _, [], _, _ => []
  | place, m :: ms, x, held =>
    let d : Deed ω := ⟨place, m, occasion, x, held⟩
    d :: procession occasion (place + 1) ms d.leaves d.visit.kept

/-- Every module has its turn, in order and at its own place. -/
theorem procession_standing (occasion : Occasion) (place : Nat) (ms : List (AuthModule ω))
    (x : Exchange) (held : Custody ω) :
    (procession occasion place ms x held).map (fun d => (d.place, d.actor, d.occasion)) =
      ms.mapIdx fun i m => (place + i, m, occasion) := by
  induction ms generalizing place x held with
  | nil => rfl
  | cons m ms ih =>
    have shift (i : Nat) : place + 1 + i = place + (i + 1) := by omega
    rw [procession, List.map_cons, ih, List.mapIdx_cons]
    simp only [shift, Nat.add_zero]

/-- The deeds follow one another, from an exchange and what is held with it to another. -/
inductive Succession : Exchange → Custody ω → List (Deed ω) → Exchange → Custody ω → Prop
  | nil (x h) : Succession x h [] x h
  | cons {d ds x h} (rest : Succession d.leaves d.visit.kept ds x h) :
      Succession d.exchange d.held (d :: ds) x h

namespace Succession

variable {x y z : Exchange} {h i j : Custody ω} {ds es : List (Deed ω)}

theorem append (first : Succession x h ds y i) (second : Succession y i es z j) :
    Succession x h (ds ++ es) z j := by
  induction first with
  | nil => exact second
  | cons _ ih => exact .cons (ih second)

theorem of_nil (succession : Succession x h [] y i) : y = x ∧ i = h := by
  cases succession with
  | nil => exact ⟨rfl, rfl⟩

theorem of_singleton {d : Deed ω} (succession : Succession x h [d] y i) :
    y = d.leaves ∧ i = d.visit.kept := by
  cases succession with
  | cons rest => exact rest.of_nil

/-- The trail grows by the entries of the deeds, and by nothing else. -/
theorem trail (succession : Succession x h ds y i) :
    y.trail = x.trail ++ ds.flatMap Deed.entries := by
  induction succession with
  | nil => simp
  | cons _ ih => rw [ih, Deed.leaves, Exchange.revise_trail, List.flatMap_cons, List.append_assoc]

end Succession

def Activity.isCall : Activity → Bool
  | .called _ _ _ => true
  | .logged _ => false

/-- The duty calls the modules for these deeds and leaves what they leave. -/
structure Enacts (p : Proceeding ω) (r : Run (Proceeding ω) Activity α) (ds : List (Deed ω)) :
    Prop where
  calls : r.journal.filter Activity.isCall = ds.map Deed.call
  succession : Succession p.exchange p.toCustody ds r.state.exchange r.state.toCustody

namespace Enacts

variable {p : Proceeding ω} {x : Duty ω α} {f : α → Duty ω β} {ds es : List (Deed ω)}

theorem single {r : Run (Proceeding ω) Activity α} {d : Deed ω} (exchange : d.exchange = p.exchange)
    (held : d.held = p.toCustody) (calls : r.journal.filter Activity.isCall = [d.call])
    (leaves : r.state.exchange = d.leaves) (keeps : r.state.toCustody = d.visit.kept) :
    Enacts p r [d] := by
  refine ⟨calls, ?_⟩
  rw [leaves, keeps, ← exchange, ← held]
  exact .cons (.nil _ _)

theorem bind {a : α} (first : Enacts p (x p) ds) (settled : (x p).ending = .settled a)
    (second : Enacts (x p).state (f a (x p).state) es) : Enacts p ((x >>= f) p) (ds ++ es) := by
  rw [Act.settled_bind settled]
  constructor
  case calls =>
    rw [Run.after_journal, List.filter_append, first.calls, second.calls, List.map_append]
  case succession => exact first.succession.append second.succession

theorem bind_of_halted {k : Halt} (first : Enacts p (x p) ds) (halted : (x p).ending = .halted k) :
    Enacts p ((x >>= f) p) ds := by
  rw [Act.bind_of_halted halted]
  exact ⟨first.calls, first.succession⟩

/-- What follows may log and vouch, but does no deed. -/
theorem bind_idle (first : Enacts p (x p) ds)
    (idle : ∀ a, (x p).ending = .settled a → Enacts (x p).state (f a (x p).state) []) :
    Enacts p ((x >>= f) p) ds := by
  cases ending : (x p).ending with
  | halted k => exact first.bind_of_halted ending
  | settled a =>
    have whole := first.bind ending (idle a ending)
    rwa [List.append_nil] at whole

end Enacts

namespace Deed

variable {d : Deed ω} {phase : Phase} {ending : Ending Answer}

theorem entries_of_settled {a : Answer} (result : d.visit.result = some (phase, ending))
    (settled : ending.contained = .settled a) :
    d.entries = d.visit.notes ++ [⟨d.actor.id, phase, .ofAnswer a⟩] := by
  simp [entries, decision?, result, Audit.Decision.of?_of_settled settled]

theorem entries_of_halted {k : Halt} (result : d.visit.result = some (phase, ending))
    (halted : ending.contained = .halted k) : d.entries = d.visit.notes := by
  simp [entries, decision?, result, Audit.Decision.of?_of_halted halted]

theorem entries_of_unrecorded (result : d.visit.result = none) : d.entries = d.visit.notes := by
  simp [entries, decision?, result]

/-- The module has to answer in this phase. Unless it waits for ever its answer is the one decision
that comes to the trail with the deed, after what the module noted itself. -/
def RecordsOnce (phase : Phase) (d : Deed ω) : Prop :=
  ∃ e, d.visit.result = some (phase, e) ∧ (e ≠ .halted .pending →
    ∃ a, e.contained = .settled a ∧
      d.entries = d.visit.notes ++ [⟨d.actor.id, phase, .ofAnswer a⟩])

theorem recordsOnce {d : Deed ω} {phase : Phase} {ending : Ending Answer}
    (result : d.visit.result = some (phase, ending)) : d.RecordsOnce phase := by
  refine ⟨ending, result, ?_⟩
  intro settles
  obtain ⟨a, settled⟩ := Ending.contained_settles settles
  have entries := entries_of_settled result settled
  exact ⟨a, settled, entries⟩

theorem recordsOnce_of_validation {d : Deed ω} {service : Subject}
    (validation : d.occasion = .validation service) : d.RecordsOnce .validateRequest := by
  have result : d.visit.result =
      some (.validateRequest, (d.actor.validate service d.exchange d.held).result) := by
    rw [visit, validation]
    rfl
  exact recordsOnce result

theorem recordsOnce_of_securing {d : Deed ω} {service : Subject}
    (securing : d.occasion = .securing service) : d.RecordsOnce .secureResponse := by
  have result : d.visit.result =
      some (.secureResponse, (d.actor.secure service d.exchange d.held.memory).result) := by
    rw [visit, securing]
  exact recordsOnce result

theorem entries_of_cleaning (d : Deed ω) (cleaning : d.occasion = .cleaning) :
    d.entries = d.visit.notes := by
  apply entries_of_unrecorded
  rw [visit, cleaning]
  rfl

end Deed

theorem Proceeding.recordDecision_exchange (p : Proceeding ω) (moduleId : String) (phase : Phase)
    (a : Answer) :
    (p.recordDecision moduleId phase a).exchange =
      p.exchange.revise p.exchange.toDraft [⟨moduleId, phase, .ofAnswer a⟩] := by
  cases a <;> rfl

theorem Exchange.revise_revise (x : Exchange) (d d' : Draft) (notes notes' : List Audit.Entry) :
    (x.revise d notes).revise d' notes' = x.revise d' (notes ++ notes') := by
  simp [revise, List.append_assoc]

namespace AuthModule

variable (m : AuthModule ω) (place : Nat) (service : Subject) (p : Proceeding ω)

/-- What the module does when the proceeding has come to it. -/
def deed (occasion : Occasion) : Deed ω := ⟨place, m, occasion, p.exchange, p.toCustody⟩

variable {m place p} in
/-- If a visit is the deed, but for its decision, then deciding by it is all of the deed. -/
theorem enacts_decide {occasion : Occasion} {phase : Phase} {ending : Ending Answer}
    {visit : Duty ω Answer}
    (visited : visit p =
      { ending
        state :=
          { p with
            toCustody := (m.deed place p occasion).visit.kept
            exchange := p.exchange.revise (m.deed place p occasion).visit.draft
              (m.deed place p occasion).visit.notes }
        journal := [(m.deed place p occasion).call] })
    (result : (m.deed place p occasion).visit.result = some (phase, ending)) :
    Enacts p (m.decide phase visit p) [m.deed place p occasion] ∧
      (m.decide phase visit p).ending = ending.contained := by
  have ended : (visit p).ending.contained = ending.contained := by rw [visited]
  cases contained : ending.contained with
  | halted k =>
    have entries := Deed.entries_of_halted result contained
    rw [decide_of_halted (ended.trans contained), visited]
    refine ⟨.single rfl rfl rfl ?_ rfl, rfl⟩
    rw [Deed.leaves, entries]
    rfl
  | settled a =>
    have entries := Deed.entries_of_settled result contained
    rw [decide_of_settled (ended.trans contained), visited]
    refine ⟨.single rfl rfl rfl ?_ ?_, rfl⟩
    · rw [Proceeding.recordDecision_exchange, Exchange.revise_revise, Deed.leaves, entries]
      rfl
    · cases a <;> rfl

theorem enacts_attemptCleaning :
    Enacts p (m.attemptCleaning place p) [m.deed place p .cleaning] := by
  have cleaned : Enacts p ((m.cleanAt place).guarded p) [m.deed place p .cleaning] := by
    have entries : (m.deed place p .cleaning).entries = (m.deed place p .cleaning).visit.notes :=
      Deed.entries_of_unrecorded rfl
    rw [Act.guarded_apply]
    refine .single rfl rfl rfl ?_ rfl
    rw [Deed.leaves, entries]
    rfl
  refine cleaned.bind_idle ?_
  intro a _
  cases a with
  | ok _ => exact ⟨rfl, .nil _ _⟩
  | error e => exact ⟨rfl, .nil _ _⟩

end AuthModule

namespace Deed

/-- The module stands at its place, if these stand one after the other from `place` on. -/
def IsOf (place : Nat) (ms : List (AuthModule ω)) (d : Deed ω) : Prop :=
  ∃ i, d.place = place + i ∧ ms[i]? = some d.actor

theorem IsOf.head (place : Nat) (m : AuthModule ω) (ms : List (AuthModule ω)) (p : Proceeding ω)
    (occasion : Occasion) : (m.deed place p occasion).IsOf place (m :: ms) :=
  ⟨0, rfl, rfl⟩

theorem IsOf.tail {d : Deed ω} {place : Nat} {ms : List (AuthModule ω)}
    (stands : d.IsOf (place + 1) ms) (m : AuthModule ω) : d.IsOf place (m :: ms) := by
  obtain ⟨i, at_place, found⟩ := stands
  exact ⟨i + 1, by omega, found⟩

end Deed

namespace Chain

/-- The deeds of a walk and how it ends. A candidate is asked, and the walk ends with it unless the
strategy goes on after its verdict. -/
inductive Asks (s : Strategy) (service : Subject) :
    Nat → List (AuthModule ω) → List (Deed ω) → Ending Answer → Prop
  | exhausted (place) : Asks s service place [] [] (.settled (.ok s.exhausted))
  | passed {place m ms p v ds ending} (answer : (m.opinion service p).result = .settled (.ok v))
      (falls : s.fallsThrough v = true) (rest : Asks s service (place + 1) ms ds ending) :
      Asks s service place (m :: ms) (m.deed place p (.validation service) :: ds) ending
  | stopped {place m ms p} (stops : s.StopsAt (m.opinion service p).result) :
      Asks s service place (m :: ms) [m.deed place p (.validation service)]
        (m.opinion service p).result.contained

theorem Asks.candidates {s : Strategy} {service : Subject} {place : Nat} {ms : List (AuthModule ω)}
    {ds : List (Deed ω)} {ending : Ending Answer} (asks : Asks s service place ms ds ending) :
    ∀ d ∈ ds, d.occasion = .validation service ∧ d.IsOf place ms := by
  induction asks with
  | exhausted => simp
  | passed _ _ _ ih =>
    refine List.forall_mem_cons.mpr ⟨⟨rfl, .head _ _ _ _ _⟩, ?_⟩
    intro d done
    obtain ⟨occasion, stands⟩ := ih d done
    exact ⟨occasion, stands.tail _⟩
  | stopped => exact List.forall_mem_singleton.mpr ⟨rfl, .head _ _ _ _ _⟩

theorem enacts_walk (s : Strategy) (service : Subject) (place : Nat) (ms : List (AuthModule ω))
    (p : Proceeding ω) :
    ∃ ds, Enacts p (walk s service place ms p) ds ∧
      Asks s service place ms ds (walk s service place ms p).ending := by
  induction ms generalizing place p with
  | nil => exact ⟨[], ⟨rfl, .nil _ _⟩, .exhausted place⟩
  | cons m ms ih =>
    obtain ⟨first, asked⟩ :
        Enacts p (m.decideValidation place service p) [m.deed place p (.validation service)] ∧
        (m.decideValidation place service p).ending = (m.opinion service p).result.contained :=
      AuthModule.enacts_decide rfl rfl
    -- A candidate that the walk stops at does its last deed; any other is followed by a walk.
    by_cases stops : s.StopsAt (m.opinion service p).result
    · refine ⟨_, first.bind_idle ?_, ?_⟩
      · intro a settled
        cases a with
        | error e => exact ⟨rfl, .nil _ _⟩
        | ok v =>
          have answer := Ending.contained_eq_settled_ok_iff.mp (asked.symm.trans settled)
          have falls := stops v answer
          simp only [falls]
          by_cases success : v = some .success
          · rw [if_pos success]
            exact ⟨rfl, .nil _ _⟩
          · rw [if_neg success]
            exact ⟨rfl, .nil _ _⟩
      · rw [walk_cons_ending stops]
        exact .stopped stops
    · obtain ⟨v, answer, falls⟩ : ∃ v, (m.opinion service p).result = .settled (.ok v) ∧
          s.fallsThrough v = true := by
        simpa [Strategy.StopsAt] using stops
      have settled : (m.decideValidation place service p).ending = .settled (.ok v) :=
        asked.trans (Ending.contained_eq_settled_ok_iff.mpr answer)
      obtain ⟨ds, rest, asks⟩ := ih (place + 1) (m.decideValidation place service p).state
      refine ⟨m.deed place p (.validation service) :: ds, first.bind settled ?_, ?_⟩
      · simpa only [falls, if_true] using rest
      · rw [walk, Act.settled_bind settled]
        simp only [falls, if_true, Run.after_ending]
        exact .passed answer falls asks

theorem enacts_validate (c : Chain ω) (service : Subject) (p : Proceeding ω) :
    ∃ ds, Enacts p (c.validate service p) ds ∧
      Asks c.strategy service 0 c.candidates ds (c.validate service p).ending := by
  obtain ⟨ds, enacts, asks⟩ :=
    enacts_walk c.strategy service 0 c.candidates { p with vouchedBy := none }
  exact ⟨ds, ⟨enacts.calls, enacts.succession⟩, asks⟩

/-- Cleaning does its deeds one candidate after the other, whether or not one fails. -/
theorem enacts_cleanFrom (place : Nat) (ms : List (AuthModule ω)) (p : Proceeding ω) :
    ∃ ds, Enacts p (cleanFrom place ms p) ds ∧
      ∀ d ∈ ds, d.occasion = .cleaning ∧ d.IsOf place ms := by
  induction ms generalizing place p with
  | nil => exact ⟨[], ⟨rfl, .nil _ _⟩, by simp⟩
  | cons m ms ih =>
    have first := m.enacts_attemptCleaning place p
    have head : (m.deed place p .cleaning).IsOf place (m :: ms) := .head _ _ _ _ _
    cases ending : (m.attemptCleaning place p).ending with
    | halted k =>
      exact ⟨_, first.bind_of_halted ending, List.forall_mem_singleton.mpr ⟨rfl, head⟩⟩
    | settled a =>
      obtain ⟨ds, rest, stand⟩ := ih (place + 1) (m.attemptCleaning place p).state
      refine ⟨_, first.bind ending (rest.bind_idle ?_), ?_⟩
      · intro b _
        cases a with
        | ok _ => exact ⟨rfl, .nil _ _⟩
        | error e => exact ⟨rfl, .nil _ _⟩
      · refine List.forall_mem_cons.mpr ⟨⟨rfl, head⟩, ?_⟩
        intro d done
        obtain ⟨occasion, stands⟩ := stand d done
        exact ⟨occasion, stands.tail m⟩

theorem enacts_clean (c : Chain ω) (p : Proceeding ω) :
    ∃ ds, Enacts p (c.clean p) ds ∧ ∀ d ∈ ds, d.occasion = .cleaning ∧ d.IsOf 0 c.candidates :=
  enacts_cleanFrom 0 c.candidates p

end Chain

end Gatekeeper
