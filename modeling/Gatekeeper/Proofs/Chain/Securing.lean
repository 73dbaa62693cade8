import Gatekeeper.Proofs.Chain.Deeds
import Gatekeeper.Proofs.Chain.Vouching

namespace Gatekeeper

variable {ω : Type}

/-- The same done by another module, about what this one has left. -/
def Deed.next (d : Deed ω) (place : Nat) (m : AuthModule ω) : Deed ω :=
  ⟨place, m, d.occasion, d.leaves, d.visit.kept⟩

namespace Chain

variable (c : Chain ω)

/-- The session module secures after the module that authenticated has done this: it is another
candidate, whatever their ids, and the strategy accepts the verdict which that one settled on. -/
def SecuresAfter (first : Deed ω) (session : AuthModule ω) : Prop :=
  c.session = some session ∧ first.place ≠ 0 ∧
    ∃ v, first.ending? = some (.settled (.ok v)) ∧ c.strategy.sessionSecuresAfter v = true

/-- The deeds of a securing that begins with this one. -/
inductive Relays (first : Deed ω) : List (Deed ω) → Prop
  | alone (last : ∀ session, ¬ c.SecuresAfter first session) : Relays first [first]
  | withSession {session} (follows : c.SecuresAfter first session) :
      Relays first [first, first.next 0 session]

variable {c}

theorem Relays.occasion {first : Deed ω} {ds : List (Deed ω)} (relays : c.Relays first ds) :
    ∀ d ∈ ds, d.occasion = first.occasion := by
  cases relays with
  | alone => exact List.forall_mem_singleton.mpr rfl
  | withSession => exact List.forall_mem_cons.mpr ⟨rfl, List.forall_mem_singleton.mpr rfl⟩

/-- Nobody secures twice, whatever the ids. -/
theorem Relays.nodup {first : Deed ω} {ds : List (Deed ω)} (relays : c.Relays first ds) :
    (ds.map Deed.place).Nodup := by
  cases relays with
  | alone => simp
  | withSession follows => simpa [Deed.next] using follows.2.1

theorem secureFurther_of_securesAfter {first : Deed ω} {session : AuthModule ω}
    (follows : c.SecuresAfter first session) (service : Subject) :
    ∃ v, first.ending? = some (.settled (.ok v)) ∧
      c.secureFurther service first.place (.ok v) = session.decideSecuring 0 service := by
  obtain ⟨held, elsewhere, v, settled, accepts⟩ := follows
  refine ⟨v, settled, ?_⟩
  unfold secureFurther secureSession
  rw [held]
  exact if_pos ⟨elsewhere, accepts⟩

theorem secureFurther_of_alone {first : Deed ω} {a : Answer}
    (alone : ∀ session, ¬ c.SecuresAfter first session)
    (answered : first.ending?.map Ending.contained = some (.settled a)) (service : Subject) :
    c.secureFurther service first.place a = pure a := by
  cases a with
  | error e => rfl
  | ok v =>
    obtain ⟨e, ending, contained⟩ := Option.map_eq_some_iff.mp answered
    rw [Ending.contained_eq_settled_ok_iff] at contained
    unfold secureFurther secureSession
    cases held : c.session with
    | none => rfl
    | some session =>
      have settled : first.ending? = some (.settled (.ok v)) := by rw [ending, contained]
      apply if_neg
      intro secures
      obtain ⟨elsewhere, accepts⟩ := secures
      exact alone session ⟨held, elsewhere, v, settled, accepts⟩

/-- The module that vouches for the exchange secures, and then perhaps the session module; the last
one that is called has the last word. -/
theorem secure_relays {place : Nat} {m : AuthModule ω} {p : Proceeding ω}
    (vouched : p.vouchedBy = some place) (found : c.candidates[place]? = some m)
    (service : Subject) :
    ∃ ds, c.Relays (m.deed place p (.securing service)) ds ∧ Enacts p (c.secure service p) ds ∧
      (ds.getLast?.bind Deed.ending?).map .contained = some (c.secure service p).ending := by
  obtain ⟨first, ends⟩ :
      Enacts p (m.decideSecuring place service p) [m.deed place p (.securing service)] ∧
      (m.decideSecuring place service p).ending =
        (m.secure service p.exchange p.memory).result.contained :=
    AuthModule.enacts_decide rfl rfl
  have answered : (m.deed place p (.securing service)).ending?.map .contained =
    some (m.decideSecuring place service p).ending := congrArg some ends.symm
  rw [secure_of_authenticated vouched found]
  by_cases follows : ∃ session, c.SecuresAfter (m.deed place p (.securing service)) session
  · obtain ⟨session, follows⟩ := follows
    obtain ⟨v, settled, goesOn⟩ := secureFurther_of_securesAfter follows service
    change c.secureFurther service place (.ok v) = _ at goesOn
    have answer : (m.decideSecuring place service p).ending = .settled (.ok v) := by
      rw [settled] at answered
      exact (Option.some.inj answered).symm
    let q := (m.decideSecuring place service p).state
    obtain ⟨second, ends⟩ :
        Enacts q (session.decideSecuring 0 service q) [session.deed 0 q (.securing service)] ∧
        (session.decideSecuring 0 service q).ending =
          (session.secure service q.exchange q.memory).result.contained :=
      AuthModule.enacts_decide rfl rfl
    -- The session module finds what the first one has left, which makes its deed the next one.
    obtain ⟨exchange, custody⟩ := first.succession.of_singleton
    have next : session.deed 0 (m.decideSecuring place service p).state (.securing service) =
        (m.deed place p (.securing service)).next 0 session := by
      rw [AuthModule.deed, exchange, custody]
      rfl
    rw [← goesOn, next] at second
    refine ⟨_, .withSession follows, first.bind answer second, ?_⟩
    rw [Act.settled_bind answer, Run.after_ending, goesOn, ends, List.getLast?_cons_cons,
      List.getLast?_singleton, ← next]
    rfl
  · have alone := not_exists.mp follows
    have idle (a : Answer) (settled : (m.decideSecuring place service p).ending = .settled a) :
        c.secureFurther service place a = pure a := by
      rw [settled] at answered
      exact secureFurther_of_alone alone answered service
    rw [Act.bind_of_idle idle]
    exact ⟨_, .alone alone, first, answered⟩

/-- The deeds of any securing and how it ends. Whether the session module had to follow is left out,
for the trail does not go by it. -/
inductive Secures (c : Chain ω) (service : Subject) (p : Proceeding ω) :
    List (Deed ω) → Ending Answer → Prop
  | nobody (unvouched : c.authenticatedBy? p = none) :
      Secures c service p [] (.settled (.ok (some .sendSuccess)))
  | alone {place : Nat} {m : AuthModule ω} (found : c.candidates[place]? = some m) :
      Secures c service p [m.deed place p (.securing service)]
        (m.secure service p.exchange p.memory).result.contained
  | withSession {place : Nat} {m session : AuthModule ω} {q : Proceeding ω} {v : Option Verdict}
      (found : c.candidates[place]? = some m)
      (answer : (m.secure service p.exchange p.memory).result = .settled (.ok v))
      (second : c.session = some session) :
      Secures c service p [m.deed place p (.securing service), session.deed 0 q (.securing service)]
        (session.secure service q.exchange q.memory).result.contained

theorem candidate_of_session {c : Chain ω} {session : AuthModule ω} (h : c.session = some session) :
    c.candidates[0]? = some session := by
  simp [candidates, h]

theorem Secures.candidates {c : Chain ω} {service : Subject} {p : Proceeding ω}
    {ds : List (Deed ω)} {ending : Ending Answer} (secures : c.Secures service p ds ending) :
    ∀ d ∈ ds, d.occasion = .securing service ∧ d.IsOf 0 c.candidates := by
  have stands {place : Nat} {m : AuthModule ω} (q : Proceeding ω)
      (found : c.candidates[place]? = some m) :
      (m.deed place q (.securing service)).IsOf 0 c.candidates :=
    ⟨place, (Nat.zero_add place).symm, found⟩
  cases secures with
  | nobody => simp
  | alone found => exact List.forall_mem_singleton.mpr ⟨rfl, stands p found⟩
  | @withSession _ _ _ q _ found _ second =>
    have session := stands q (candidate_of_session second)
    refine List.forall_mem_cons.mpr ⟨⟨rfl, stands p found⟩, ?_⟩
    exact List.forall_mem_singleton.mpr ⟨rfl, session⟩

theorem enacts_secure (c : Chain ω) (service : Subject) (p : Proceeding ω) :
    ∃ ds, Enacts p (c.secure service p) ds ∧
      c.Secures service p ds (c.secure service p).ending := by
  cases authenticated : c.authenticatedBy? p with
  | none =>
    rw [secure_of_nobody authenticated]
    exact ⟨[], ⟨rfl, .nil _ _⟩, .nobody authenticated⟩
  | some m =>
    obtain ⟨place, vouched, found⟩ := Option.bind_eq_some_iff.mp authenticated
    obtain ⟨ds, relays, enacts, ends⟩ := secure_relays vouched found service
    refine ⟨ds, enacts, ?_⟩
    cases relays with
    | alone =>
      rw [← Option.some.inj ends]
      exact .alone found
    | withSession follows =>
      obtain ⟨second, -, v, settled, -⟩ := follows
      let q : Proceeding ω :=
        { p with
          toCustody := (m.deed place p (.securing service)).visit.kept
          exchange := (m.deed place p (.securing service)).leaves }
      rw [← Option.some.inj ends]
      exact .withSession (q := q) found (Option.some.inj settled) second

/-- Whatever becomes of an exchange that was validated, to secure the response to it takes the
candidate that the validation stopped at with success, and then the session module if it follows. If
there is no such candidate nobody is called. The trail grows by what those who were called noted,
each with its decision after it. -/
theorem secure_relays_after_validate (c : Chain ω) (service securer : Subject) (p : Proceeding ω)
    (custody : Custody ω) (exchange : Exchange) :
    let q : Proceeding ω :=
      { (c.validate service p).state with toCustody := custody, exchange }
    let r := c.secure securer q
    let elects := c.Elects service { p with vouchedBy := none }
    ((∀ place, ¬ elects place) →
      r = { ending := .settled (.ok (some .sendSuccess)), state := q }) ∧
    ∀ place, elects place → ∃ m ds, c.candidates[place]? = some m ∧
      c.Relays (m.deed place q (.securing securer)) ds ∧
      r.journal.filter Activity.isCall = ds.map Deed.call ∧
      (ds.map Deed.place).Nodup ∧
      (ds.getLast?.bind Deed.ending?).map .contained = some r.ending ∧
      Succession q.exchange q.toCustody ds r.state.exchange r.state.toCustody ∧
      r.state.exchange.trail = exchange.trail ++ ds.flatMap Deed.entries ∧
      ∀ d ∈ ds, d.RecordsOnce .secureResponse := by
  intro q r elects
  constructor
  · intro unelected
    have unvouched : q.vouchedBy = none := by
      cases vouched : q.vouchedBy with
      | none => rfl
      | some place =>
        have elected : elects place := elects_of_validate_vouchedBy vouched
        exact (unelected place elected).elim
    have nobody := authenticatedBy?_of_unvouched (c := c) unvouched
    exact secure_of_nobody nobody securer
  · intro place elected
    have vouched : q.vouchedBy = some place := validate_vouchedBy_of_elects elected
    obtain ⟨m, found⟩ := elected.candidate
    obtain ⟨ds, relays, enacts, ends⟩ := secure_relays vouched found securer
    have recorded : ∀ d ∈ ds, d.RecordsOnce .secureResponse := by
      intro d done
      exact Deed.recordsOnce_of_securing (relays.occasion d done)
    exact ⟨m, ds, found, relays, enacts.calls, relays.nodup, ends, enacts.succession,
      enacts.succession.trail, recorded⟩

end Chain

end Gatekeeper
