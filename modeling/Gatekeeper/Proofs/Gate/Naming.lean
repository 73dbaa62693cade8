import Gatekeeper.Proofs.Chain.Vouching
import Gatekeeper.Proofs.Gate.Dispatch
import Gatekeeper.Proofs.Gate.Principal

namespace Gatekeeper

open Http (Request)

variable {ω : Type}

/-- The name that is shared under the principal's key. -/
def Draft.publishedName? (d : Draft) : Option String :=
  match Json.Object.get? d.shared Attributes.principalKey with
  | some (.string name) => some name
  | some .null | none => none
  | some other => some other.canonical.compact

namespace Proceeding

/-- A name stands in one of the two places that the principal is looked for in. -/
def Bears (p : Proceeding ω) (name : String) : Prop :=
  p.exchange.publishedName? = some name ∨ ⟨name⟩ ∈ p.client.principals

theorem resolvePrincipal_eq (p : Proceeding ω) :
    p.resolvePrincipal = p.exchange.publishedName?.or p.client.firstName? := by
  unfold resolvePrincipal Draft.publishedName?
  match Json.Object.get? p.exchange.shared Attributes.principalKey with
  | some (.string _) | some .null | none => rfl
  | some (.bool _) | some (.number _) | some (.array _) | some (.object _) => rfl

theorem bears_of_resolvePrincipal {p : Proceeding ω} {name : String}
    (resolved : p.resolvePrincipal = some name) : p.Bears name := by
  rw [resolvePrincipal_eq, Option.or_eq_some_iff] at resolved
  rcases resolved with published | ⟨-, first⟩
  · exact .inl published
  · obtain ⟨principal, head, named⟩ := Option.map_eq_some_iff.mp first
    rw [← named]
    exact .inr (List.mem_of_head? head)

theorem resolvePrincipal_of_bears {p : Proceeding ω} {name : String} (bears : p.Bears name) :
    p.resolvePrincipal ≠ none := by
  rw [resolvePrincipal_eq, Ne, Option.or_eq_none_iff]
  intro unset
  rcases bears with published | member
  · rw [published] at unset
    cases unset.1
  · have none : p.client.principals = [] := by simpa [Subject.firstName?] using unset.2
    rw [none] at member
    cases member

end Proceeding

namespace AuthModule

/-- Asked about `p`, the module shares a value of its own under the principal's key, which reads as
this name. -/
def Publishes (m : AuthModule ω) (service : Subject) (p : Proceeding ω) (name : String) : Prop :=
  (m.opinion service p).draft.publishedName? = some name ∧
    Json.Object.get? (m.opinion service p).draft.shared Attributes.principalKey ≠
      Json.Object.get? p.exchange.shared Attributes.principalKey

/-- Asked about `p`, the module names a principal: it publishes the name or adds it to the client
subject. -/
def Names (m : AuthModule ω) (service : Subject) (p : Proceeding ω) (name : String) : Prop :=
  m.Publishes service p name ∨
    ⟨name⟩ ∈ (m.opinion service p).kept.client.principals ∧ ⟨name⟩ ∉ p.client.principals

variable {m : AuthModule ω} {service : Subject} {p : Proceeding ω} {name : String}

theorem leaves_bears_iff (a : Answer) :
    (m.leaves service p a).Bears name ↔
      (m.opinion service p).draft.publishedName? = some name ∨
        ⟨name⟩ ∈ (m.opinion service p).kept.client.principals := Iff.rfl

theorem Names.bears (names : m.Names service p name) (a : Answer) :
    (m.leaves service p a).Bears name := by
  rcases names with publishes | adds
  · exact .inl publishes.1
  · exact .inr adds.1

/-- A name is there since the module named it, or it was there before. -/
theorem names_or_bears {a : Answer} (bears : (m.leaves service p a).Bears name) :
    m.Names service p name ∨ p.Bears name := by
  rcases (leaves_bears_iff a).mp bears with published | member
  · by_cases same : Json.Object.get? (m.opinion service p).draft.shared Attributes.principalKey =
        Json.Object.get? p.exchange.shared Attributes.principalKey
    · right
      left
      rw [← published, Draft.publishedName?, Draft.publishedName?, same]
    · exact .inl (.inl ⟨published, same⟩)
  · by_cases before : ⟨name⟩ ∈ p.client.principals
    · exact .inr (.inr before)
    · exact .inl (.inr ⟨member, before⟩)

end AuthModule

/-- One of the modules named it, when it was asked in its turn. -/
def NamedBy (service : Subject) (p : Proceeding ω) (ms : List (AuthModule ω)) (name : String) :
    Prop :=
  ∃ earlier m later vs q, ms = earlier ++ m :: later ∧ Consulted service p earlier vs q ∧
    m.Names service q name

/-- Whatever name stands there after a walk comes from somewhere. -/
theorem Consulted.namedBy {service : Subject} {p q : Proceeding ω} {ms : List (AuthModule ω)}
    {vs : List (Option Verdict)} (path : Consulted service p ms vs q) {name : String}
    (bears : q.Bears name) : p.Bears name ∨ NamedBy service p ms name := by
  induction path with
  | nil => exact .inl bears
  | @cons p m v ms vs q settles _ ih =>
    rcases ih bears with left | ⟨earlier, n, later, vs', q', split, path, names⟩
    · rcases AuthModule.names_or_bears left with names | before
      · exact .inr ⟨[], m, ms, [], p, rfl, .nil p, names⟩
      · exact .inl before
    · have after : m :: ms = (m :: earlier) ++ n :: later := congrArg (List.cons m) split
      exact .inr ⟨m :: earlier, n, later, v :: vs', q', after, .cons settles path, names⟩

namespace Chain

variable {c : Chain ω} {service : Subject} {p q : Proceeding ω}

/-- At the first match, what the candidate leaves that answers success is what the walk leaves. -/
theorem validate_of_success (first : c.strategy = .firstMatch)
    (success : (c.validate service p).ending = .settled (.ok (some .success))) :
    ∃ before m after vs q, c.candidates = before ++ m :: after ∧
      Consulted service { p with vouchedBy := none } before vs q ∧
      (∀ v ∈ vs, v = some .sendFailure) ∧
      (m.opinion service q).result = .settled (.ok (some .success)) ∧
      (c.validate service p).state = m.concludes before.length service q (.ok (some .success)) := by
  have succeeds := (c.validate_settles_on_success_iff service p).mp success
  obtain ⟨before, m, after, vs, q, split, path, passed, answer⟩ :=
    (succeeds_of_firstMatch_iff first).mp succeeds
  refine ⟨before, m, after, vs, q, split, path, passed, answer, ?_⟩
  have passes : c.strategy.PassesOver vs := by
    simpa [Strategy.PassesOver, first, Strategy.firstMatch] using passed
  have stops : c.strategy.StopsAt (m.opinion service q).result := by
    intro v settled
    rw [answer] at settled
    cases settled
    rw [first]
    rfl
  have contained := Ending.contained_eq_settled_ok_iff.mpr answer
  obtain ⟨journal, walked⟩ := walk_append path passes 0 (m :: after)
  rw [validate_apply, split, walked, Run.after_state, walk_cons_of_decided contained stops,
    Nat.zero_add]

end Chain

namespace Gate

variable (g : Gate ω) (c : Chain ω) (resource : Resource ω)

/-- The principal that the resource finds was named by the module that authenticated the request,
or by a candidate before it that deferred and left the name there. What the authenticating module
publishes always comes first, and if nothing was left before it, the principal is its own. -/
theorem process_names_principal (fresh : String) (request : Request) (caller : Caller ω)
    (first : c.strategy = .firstMatch)
    (success : (c.validate g.service (opening fresh request caller).toProceeding).ending =
      .settled (.ok (some .success))) :
    let start := (opening fresh request caller).toProceeding
    ∃ before m after vs q attributes sent,
      c.candidates = before ++ m :: after ∧ Consulted g.service start before vs q ∧
      (∀ v ∈ vs, v = some .sendFailure) ∧
      (m.opinion g.service q).result = .settled (.ok (some .success)) ∧
      c.authenticatedBy? (c.validate g.service start).state = some m ∧
      ((g.fronting c).process fresh resource request caller).journal.filter Event.isDispatch =
        [.dispatched attributes sent] ∧
      (∀ name, attributes.principal = some name →
        m.Names g.service q name ∨ q.Bears name ∧ NamedBy g.service start before name) ∧
      (∀ name, m.Publishes g.service q name → attributes.principal = some name) ∧
      (∀ name, m.Names g.service q name → attributes.principal ≠ none) ∧
      ((∀ name, ¬ q.Bears name) →
        (∀ name, attributes.principal = some name → m.Names g.service q name) ∧
        (attributes.principal = none ↔ ∀ name, ¬ m.Names g.service q name)) := by
  intro start
  let s := opening fresh request caller
  obtain ⟨before, m, after, vs, q, split, path, passed, answer, left⟩ :=
    Chain.validate_of_success first success
  have succeeds := (c.validate_settles_on_success_iff g.service start).mp success
  have authenticates : (g.fronting c).Authenticates s :=
    (g.authenticates_iff_succeeds c s).mpr succeeds
  have dispatched := ((g.fronting c).filter_dispatch resource fresh request caller).1 authenticates
  have validated : ((g.fronting c).validate s).state.toProceeding =
      (c.validate g.service start).state := (g.fronting c).validate_toProceeding s
  -- The place of the authenticating module does not matter to the principal.
  have resolved : ((g.fronting c).admitted s).attributes.principal =
      (m.leaves g.service q (.ok (some .success))).resolvePrincipal := by
    change ((g.fronting c).validate s).state.resolvePrincipal = _
    rw [validated, left]
    rfl
  have own (name : String)
      (found : ((g.fronting c).admitted s).attributes.principal = some name) :
      m.Names g.service q name ∨ q.Bears name := by
    rw [resolved] at found
    have bears := Proceeding.bears_of_resolvePrincipal found
    exact AuthModule.names_or_bears bears
  have named (name : String) (names : m.Names g.service q name) :
      ((g.fronting c).admitted s).attributes.principal ≠ none := by
    rw [resolved]
    exact Proceeding.resolvePrincipal_of_bears (names.bears _)
  have vouched : c.authenticatedBy? (c.validate g.service start).state = some m := by
    rw [left, Chain.authenticatedBy?]
    simp [AuthModule.concludes, split]
  refine ⟨before, m, after, vs, q, ((g.fronting c).admitted s).attributes,
    ((g.fronting c).admitted s).exchange.request, split, path, passed, answer, vouched, dispatched,
    ?_, ?_, named, ?_⟩
  · intro name found
    rcases own name found with names | bears
    · exact .inl names
    · rcases path.namedBy bears with opened | named
      · rcases opened with published | member
        · cases published
        · cases member
      · exact .inr ⟨bears, named⟩
  · intro name publishes
    rw [resolved, Proceeding.resolvePrincipal_eq]
    have published : (m.leaves g.service q (.ok (some .success))).exchange.publishedName? =
        some name := publishes.1
    rw [published]
    rfl
  · intro clean
    have mine (name : String)
        (found : ((g.fronting c).admitted s).attributes.principal = some name) :
        m.Names g.service q name := (own name found).resolve_right (clean name)
    refine ⟨mine, ?_, ?_⟩
    · intro unset name names
      exact named name names unset
    · intro unnamed
      cases found : ((g.fronting c).admitted s).attributes.principal with
      | none => rfl
      | some name =>
        have names := mine name found
        exact (unnamed name names).elim

/-- A module that lets every request in under no name. -/
def nameless : AuthModule ω :=
  { admitting "" with
    id := "nameless"
    validate := fun _ x held =>
      { result := .settled (.ok (some .success)), draft := x.toDraft, kept := held } }

theorem not_names_nameless (service : Subject) (p : Proceeding ω) (name : String) :
    ¬ nameless.Names service p name := by
  rintro (⟨-, own⟩ | ⟨added, new⟩)
  · exact own rfl
  · exact new added

theorem eq_of_names_admitting {service : Subject} {p : Proceeding ω} {name other : String}
    (names : (admitting name).Names service p other) : other = name := by
  rcases names with ⟨-, own⟩ | ⟨added, new⟩
  · exact (own rfl).elim
  · have named := (Subject.mem_addPrincipal.mp added).resolve_left new
    exact congrArg Principal.name named

/-- Two modules authenticate behind one that names another principal and defers: the one names
nobody, the other somebody else, and the principal is the other's all the same. -/
theorem process_names_deferred_principal :
    let chain (m : AuthModule Audit.Ledger) : Chain Audit.Ledger :=
      { modules := [deferring "mallory", m] }
    let g : Gate Audit.Ledger :=
      { sink := .recording
        responder := Negotiator.toResponder {}
        authenticator := Chain.toAuthenticator {} }
    let resource : Resource Audit.Ledger := ⟨fun _ c => (.settled {}, c)⟩
    let start := (opening "1" {} (⟨{}, {}⟩ : Caller Audit.Ledger)).toProceeding
    let served (m : AuthModule Audit.Ledger) (name : String) : Prop :=
      (chain m).authenticatedBy? ((chain m).validate g.service start).state = some m ∧
      ∃ attributes sent,
        ((g.fronting (chain m)).process "1" resource {} ⟨{}, {}⟩).journal.filter
          Event.isDispatch = [.dispatched attributes sent] ∧ attributes.principal = some name
    (served nameless "mallory" ∧
      ∀ service (p : Proceeding Audit.Ledger) name, ¬ nameless.Names service p name) ∧
    (served (admitting "alice") "mallory" ∧
      ∀ service (p : Proceeding Audit.Ledger),
        ¬ (admitting "alice").Names service p "mallory") := by
  intro chain g resource start served
  have unnamed : served nameless "mallory" := ⟨rfl, _, _, rfl, rfl⟩
  have renamed : served (admitting "alice") "mallory" := ⟨rfl, _, _, rfl, rfl⟩
  refine ⟨⟨unnamed, not_names_nameless⟩, renamed, ?_⟩
  intro service p names
  have same := eq_of_names_admitting names
  exact absurd same (by decide)

/-- The name that the deferring module left is traced back to it. -/
theorem process_names_principal_of_deferred :
    let c : Chain Audit.Ledger :=
      { session := some (deferring "mallory"), modules := [admitting "alice"] }
    let g : Gate Audit.Ledger :=
      { sink := .recording
        responder := Negotiator.toResponder {}
        authenticator := Chain.toAuthenticator {} }
    let resource : Resource Audit.Ledger := ⟨fun _ c => (.settled {}, c)⟩
    let start := (opening "1" {} (⟨{}, {}⟩ : Caller Audit.Ledger)).toProceeding
    c.strategy = .firstMatch ∧
    (c.validate g.service start).ending = .settled (.ok (some .success)) ∧
    ∃ before after attributes sent,
      c.candidates = before ++ admitting "alice" :: after ∧
      ((g.fronting c).process "1" resource {} ⟨{}, {}⟩).journal.filter Event.isDispatch =
        [.dispatched attributes sent] ∧
      attributes.principal = some "mallory" ∧ NamedBy g.service start before "mallory" := by
  intro c g resource start
  obtain ⟨before, m, after, vs, q, attributes, sent, split, -, -, -, authenticated, dispatched,
    origin, -⟩ := g.process_names_principal c resource "1" {} ⟨{}, {}⟩ rfl rfl
  cases authenticated
  have principal : attributes.principal = some "mallory" := by
    cases dispatched
    rfl
  refine ⟨rfl, rfl, before, after, attributes, sent, split, dispatched, principal, ?_⟩
  rcases origin "mallory" principal with own | ⟨-, named⟩
  · have same := eq_of_names_admitting own
    exact absurd same (by decide)
  · exact named

end Gate

end Gatekeeper
