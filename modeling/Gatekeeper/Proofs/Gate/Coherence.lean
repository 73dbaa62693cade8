import Gatekeeper.Proofs.Chain.Vouching
import Gatekeeper.Proofs.Gate.Conduct

namespace Gatekeeper

open Http (Request Response)

variable {ω : Type}

namespace Audit

/-- What a decision means for the outcome when it is the last one. -/
def Outcome.ofDecision : Phase → Decision → Outcome
  | .validateRequest, .settled (some .sendFailure) => .denied
  | .validateRequest, .settled (some .sendSuccess)
  | .validateRequest, .settled (some .sendContinue) => .continued
  | .secureResponse, .settled (some .sendSuccess)
  | .secureResponse, .settled (some .sendContinue) => .success
  | _, _ => .error

/-- The outcome that an auditor reads off the entries. -/
def Outcome.ofEntries (entries : List Entry) : Outcome :=
  match entries.getLast? with
  | none => .denied
  | some x => ofDecision x.phase x.decision

/-- The outcome is the one that the entries tell, and the entries are in order: every validation but
the last one deferred, and what was secured was authenticated before, and secured twice at most. -/
structure Event.Coherent (e : Event) : Prop where
  outcome : e.outcome = .ofEntries e.entries
  deferred : ∀ x ∈ (e.entries.filter (·.phase = .validateRequest)).dropLast,
    x.decision = .settled (some .sendFailure)
  authenticated : ∀ before x after, e.entries = before ++ x :: after → x.phase = .secureResponse →
    ∃ y ∈ before, y.phase = .validateRequest ∧ y.decision = .settled (some .success)
  secured : (e.entries.filter (·.phase = .secureResponse)).length ≤ 2

def Entry.Defers (x : Entry) : Prop :=
  x.phase = .validateRequest ∧ x.decision = .settled (some .sendFailure)

/-- The entries of a validation that settles with this answer. -/
inductive Validated : List Entry → Answer → Prop
  | exhausted {deferrals : List Entry} (all : ∀ x ∈ deferrals, x.Defers) :
      Validated deferrals (.ok (some .sendFailure))
  | decided {deferrals : List Entry} (all : ∀ x ∈ deferrals, x.Defers) (moduleId : String)
      (a : Answer) : Validated (deferrals ++ [⟨moduleId, .validateRequest, .ofAnswer a⟩]) a

/-- The entries of a securing that settles with this answer. -/
inductive Secured : List Entry → Answer → Prop
  | alone (moduleId : String) (a : Answer) :
      Secured [⟨moduleId, .secureResponse, .ofAnswer a⟩] a
  | withSession (moduleId : String) (d : Decision) (sessionId : String) (a : Answer) :
      Secured [⟨moduleId, .secureResponse, d⟩, ⟨sessionId, .secureResponse, .ofAnswer a⟩] a

/-- The entries of a run that finishes with this outcome. -/
inductive Account : List Entry → Outcome → Prop
  | validation {es a} (validated : Validated es a) :
      Account es (.ofDecision .validateRequest (.ofAnswer a))
  | securing {es fs b} (validated : Validated es (.ok (some .success))) (secured : Secured fs b) :
      Account (es ++ fs) (.ofDecision .secureResponse (.ofAnswer b))

namespace Validated

variable {es : List Entry} {a : Answer}

theorem cons {x : Entry} (defers : x.Defers) (validated : Validated es a) :
    Validated (x :: es) a := by
  cases validated with
  | exhausted all =>
    have both := List.forall_mem_cons.mpr ⟨defers, all⟩
    exact .exhausted both
  | decided all moduleId a =>
    have both := List.forall_mem_cons.mpr ⟨defers, all⟩
    exact .decided both moduleId a

theorem phases (validated : Validated es a) : ∀ x ∈ es, x.phase = .validateRequest := by
  cases validated with
  | exhausted all =>
    intro x member
    exact (all x member).1
  | decided all =>
    intro x member
    rcases List.mem_append.mp member with deferral | last
    · exact (all x deferral).1
    · rw [List.mem_singleton.mp last]

theorem deferred (validated : Validated es a) :
    ∀ x ∈ es.dropLast, x.decision = .settled (some .sendFailure) := by
  cases validated with
  | exhausted all =>
    intro x member
    have deferral := all x ((List.dropLast_sublist es).subset member)
    exact deferral.2
  | decided all =>
    intro x member
    rw [List.dropLast_concat] at member
    exact (all x member).2

theorem ofEntries (validated : Validated es a) :
    Outcome.ofEntries es = .ofDecision .validateRequest (.ofAnswer a) := by
  cases validated with
  | exhausted all =>
    unfold Outcome.ofEntries
    cases last : es.getLast? with
    | none => rfl
    | some x =>
      obtain ⟨phase, decision⟩ := all x (List.mem_of_getLast? last)
      simp only [phase, decision]
      rfl
  | decided => simp [Outcome.ofEntries]

theorem authenticates (validated : Validated es (.ok (some .success))) :
    ∃ y ∈ es, y.phase = .validateRequest ∧ y.decision = .settled (some .success) := by
  cases validated with
  | @decided deferrals all moduleId =>
    let last : Entry := ⟨moduleId, .validateRequest, .settled (some .success)⟩
    have member : last ∈ deferrals ++ [last] := List.mem_append_right _ (List.mem_singleton_self _)
    exact ⟨last, member, rfl, rfl⟩

end Validated

namespace Secured

variable {es fs : List Entry} {a : Answer}

theorem phases (secured : Secured fs a) : ∀ x ∈ fs, x.phase = .secureResponse := by
  cases secured <;> simp

theorem length_le (secured : Secured fs a) : fs.length ≤ 2 := by
  cases secured <;> simp

theorem ofEntries (secured : Secured fs a) (es : List Entry) :
    Outcome.ofEntries (es ++ fs) = .ofDecision .secureResponse (.ofAnswer a) := by
  cases secured <;> simp [Outcome.ofEntries]

end Secured

theorem filter_phase {es : List Entry} {phase : Phase} (all : ∀ x ∈ es, x.phase = phase) :
    es.filter (·.phase = phase) = es := by
  simpa [List.filter_eq_self] using all

theorem filter_other_phase {es : List Entry} {phase other : Phase} (ne : phase ≠ other)
    (all : ∀ x ∈ es, x.phase = phase) : es.filter (·.phase = other) = [] := by
  rw [List.filter_eq_nil_iff]
  intro x member
  simp [all x member, ne]

theorem Account.coherent {e : Event} (account : Account e.entries e.outcome) : e.Coherent := by
  generalize entries : e.entries = es at account
  generalize outcome : e.outcome = o at account
  cases account with
  | validation validated =>
    have validations := filter_phase validated.phases
    have unsecured : es.filter (·.phase = .secureResponse) = [] :=
      filter_other_phase (by decide) validated.phases
    constructor
    case outcome => rw [entries, outcome, validated.ofEntries]
    case deferred =>
      rw [entries, validations]
      exact validated.deferred
    case authenticated =>
      intro before x after split secured
      rw [entries] at split
      have phase := validated.phases x (by simp [split])
      rw [phase] at secured
      cases secured
    case secured =>
      rw [entries, unsecured]
      exact Nat.zero_le 2
  | @securing es fs b validated secured =>
    have validations := filter_phase validated.phases
    have securings := filter_phase secured.phases
    have unsecured : es.filter (·.phase = .secureResponse) = [] :=
      filter_other_phase (by decide) validated.phases
    have unvalidated : fs.filter (·.phase = .validateRequest) = [] :=
      filter_other_phase (by decide) secured.phases
    constructor
    case outcome => rw [entries, outcome, secured.ofEntries]
    case deferred =>
      rw [entries, List.filter_append, validations, unvalidated, List.append_nil]
      exact validated.deferred
    case authenticated =>
      intro before x after split phase
      rw [entries] at split
      obtain ⟨y, member, success⟩ := validated.authenticates
      refine ⟨y, ?_, success⟩
      -- No entry of the validation is one of securing, so that all of them come before `x`.
      rcases List.append_eq_append_iff.mp split with ⟨rest, whole, -⟩ | ⟨rest, whole, tail⟩
      · rw [whole]
        exact List.mem_append_left _ member
      · cases rest with
        | nil => rwa [whole, List.append_nil] at member
        | cons z rest =>
          obtain ⟨rfl, -⟩ := List.cons.inj tail
          rw [validated.phases x (by simp [whole])] at phase
          cases phase
    case secured =>
      rw [entries, List.filter_append, unsecured, securings]
      exact secured.length_le

end Audit

/-- The module notes no decisions itself. -/
structure AuthModule.Silent (m : AuthModule ω) : Prop where
  validate : ∀ service x held, (m.validate service x held).notes = []
  secure : ∀ service x memory, (m.secure service x memory).notes = []
  clean : ∀ x held, (m.clean x held).notes = []

namespace Deed

variable {d : Deed ω}

theorem notes_of_silent (silent : d.actor.Silent) : d.visit.notes = [] := by
  unfold visit
  cases d.occasion with
  | validation service => exact silent.validate service _ _
  | securing service => exact silent.secure service _ _
  | cleaning => exact silent.clean _ _

theorem entries_of_silent (silent : d.actor.Silent) {phase : Phase} {ending : Ending Answer}
    {a : Answer} (result : d.visit.result = some (phase, ending))
    (settled : ending.contained = .settled a) :
    d.entries = [⟨d.actor.id, phase, .ofAnswer a⟩] := by
  rw [entries_of_settled result settled, notes_of_silent silent, List.nil_append]

theorem IsOf.mem {place : Nat} {ms : List (AuthModule ω)} (stands : d.IsOf place ms) :
    d.actor ∈ ms := by
  obtain ⟨i, -, found⟩ := stands
  exact List.mem_of_getElem? found

end Deed

namespace Chain

variable {s : Strategy} {service : Subject} {ds : List (Deed ω)} {ending : Ending Answer}
  {a : Answer}

theorem Asks.validated {place : Nat} {ms : List (AuthModule ω)}
    (falls : s.fallsThrough = Strategy.firstMatch.fallsThrough)
    (exhausted : s.exhausted = some .sendFailure) (silent : ∀ m ∈ ms, m.Silent)
    (asks : Asks s service place ms ds ending) (settled : ending.contained = .settled a) :
    Audit.Validated (ds.flatMap Deed.entries) a := by
  induction asks with
  | exhausted =>
    cases settled
    rw [exhausted]
    exact .exhausted (by simp)
  | @passed place m ms p v ds ending answer goesOn rest ih =>
    obtain ⟨here, others⟩ := List.forall_mem_cons.mp silent
    have deferred : v = some .sendFailure := by
      rw [falls] at goesOn
      simpa [Strategy.firstMatch] using goesOn
    have contained := Ending.contained_eq_settled_ok_iff.mpr answer
    have entries : (m.deed place p (.validation service)).entries =
        [⟨m.id, .validateRequest, .ofAnswer (.ok v)⟩] :=
      Deed.entries_of_silent here rfl contained
    have validated := ih others settled
    rw [List.flatMap_cons, entries, List.singleton_append, deferred]
    exact validated.cons ⟨rfl, rfl⟩
  | @stopped place m ms p stops =>
    obtain ⟨here, -⟩ := List.forall_mem_cons.mp silent
    rw [Ending.contained_contained] at settled
    have entries : (m.deed place p (.validation service)).entries =
        [⟨m.id, .validateRequest, .ofAnswer a⟩] := Deed.entries_of_silent here rfl settled
    rw [List.flatMap_singleton, entries]
    exact .decided (List.forall_mem_nil Audit.Entry.Defers) m.id a

variable {c : Chain ω} {p : Proceeding ω}

theorem Secures.secured {m : AuthModule ω} (vouched : c.authenticatedBy? p = some m)
    (silent : ∀ m ∈ c.candidates, m.Silent) (secures : c.Secures service p ds ending)
    (settled : ending.contained = .settled a) : Audit.Secured (ds.flatMap Deed.entries) a := by
  have entries {place : Nat} {m : AuthModule ω} {q : Proceeding ω} {b : Answer}
      (found : c.candidates[place]? = some m)
      (secured : (m.secure service q.exchange q.memory).result.contained = .settled b) :
      (m.deed place q (.securing service)).entries =
        [⟨m.id, .secureResponse, .ofAnswer b⟩] :=
    Deed.entries_of_silent (silent m (List.mem_of_getElem? found)) rfl secured
  cases secures with
  | nobody unvouched =>
    rw [vouched] at unvouched
    cases unvouched
  | alone found =>
    rw [Ending.contained_contained] at settled
    rw [List.flatMap_singleton, entries found settled]
    exact .alone _ a
  | withSession found answer second =>
    rw [Ending.contained_contained] at settled
    have contained := Ending.contained_eq_settled_ok_iff.mpr answer
    have session := entries (candidate_of_session second) settled
    rw [List.flatMap_cons, List.flatMap_singleton, entries found contained, session]
    exact .withSession _ _ _ a

/-- Whoever's success ends a validation is the one that is asked to secure. -/
theorem authenticatedBy?_of_success (exhausted : c.strategy.exhausted ≠ some .success)
    (success : (c.validate service p).ending = .settled (.ok (some .success))) :
    ∃ m, c.authenticatedBy? (c.validate service p).state = some m := by
  rcases (c.validate_settles_on_success_iff service p).mp success with
    ⟨before, m, after, vs, q, split, path, passes, last, answer⟩ | ⟨_, _, -, -, empty⟩
  · have elects : c.Elects service { p with vouchedBy := none } before.length :=
      ⟨before, m, after, vs, q, split, rfl, path, passes, last, answer⟩
    have vouched := validate_vouchedBy_of_elects elects
    refine ⟨m, ?_⟩
    rw [authenticatedBy?, vouched]
    simp [split]
  · exact (exhausted empty).elim

end Chain

namespace Gate

variable (g : Gate ω) (c : Chain ω) (resource : Resource ω)

section

variable {g c resource}
variable {s final : Scene ω} {calls : List Event} {ending : Ending Settlement}
  {settlement : Settlement}

theorem outcome_of_refuse {e : AuthError} (settled : (g.refuse e s).ending = .settled settlement) :
    settlement.outcome = .error := by
  rw [refuse_apply] at settled
  cases response : (g.responder.respond s.exchange e s.memory).1 with
  | ok _ =>
    rw [response] at settled
    cases settled
    rfl
  | error _ =>
    rw [response] at settled
    cases settled

theorem ofDecision_of_refusal {phase : Phase} {a : Answer} {e : AuthError}
    (refusal : Answer.refusal? phase a = some e) :
    Audit.Outcome.ofDecision phase (.ofAnswer a) = .error := by
  match phase, a with
  | .validateRequest, .error _ | .secureResponse, .error _ => rfl
  | .validateRequest, .ok v | .secureResponse, .ok v =>
    match v with
    | some .success | some .failure | none => rfl
    | some .sendSuccess | some .sendContinue | some .sendFailure => cases refusal

theorem ofDecision_of_send {v : Option Verdict} (sends : Verdict.isSend v = true) :
    Audit.Outcome.ofDecision .validateRequest (.settled v) = .continued ∧
    Audit.Outcome.ofDecision .secureResponse (.settled v) = .success := by
  match v with
  | some .sendSuccess | some .sendContinue => exact ⟨rfl, rfl⟩

/-- The outcome of a run that gets to its securing is what the answer of that means. -/
theorem Securing.outcome (securing : g.Securing s calls ending final)
    (settled : ending = .settled settlement) :
    ∃ a, (g.secure s).ending = .settled a ∧
      settlement.outcome = .ofDecision .secureResponse (.ofAnswer a) := by
  cases securing with
  | unsettled => cases settled
  | delivered secured sends =>
    cases settled
    exact ⟨_, secured, (ofDecision_of_send sends).2.symm⟩
  | withheld secured =>
    cases settled
    exact ⟨_, secured, rfl⟩
  | refused secured refusal =>
    refine ⟨_, secured, ?_⟩
    rw [outcome_of_refuse settled, ofDecision_of_refusal refusal]

variable (falls : c.strategy.fallsThrough = Strategy.firstMatch.fallsThrough)
  (exhausted : c.strategy.exhausted = Strategy.firstMatch.exhausted)
  (silent : ∀ m ∈ c.candidates, m.Silent)

include silent in
theorem Securing.account {es : List Audit.Entry} {m : AuthModule ω}
    (securing : (g.fronting c).Securing s calls ending final)
    (vouched : c.authenticatedBy? s.toProceeding = some m)
    (validated : Audit.Validated es (.ok (some .success)))
    (settled : ending = .settled settlement) :
    ∃ fs, final.exchange.trail = s.exchange.trail ++ fs ∧
      Audit.Account (es ++ fs) settlement.outcome := by
  obtain ⟨ds, enacts, secures⟩ := c.enacts_secure g.service s.toProceeding
  obtain ⟨a, answer, outcome⟩ := securing.outcome settled
  have contained : (c.secure g.service s.toProceeding).ending.contained = .settled a := by
    rw [← answer]
    exact ((g.fronting c).secure_ending s).symm
  have secured : Audit.Secured (ds.flatMap Deed.entries) a :=
    secures.secured vouched silent contained
  have trail := (securing.tells enacts).trail
  refine ⟨ds.flatMap Deed.entries, trail, ?_⟩
  rw [outcome]
  exact .securing validated secured

include falls exhausted silent in
/-- Up to its cleaning a run adds the entries to the trail that account for its outcome. -/
theorem Course.account (course : (g.fronting c).Course resource s calls ending final)
    (settled : ending = .settled settlement) :
    ∃ es, final.exchange.trail = s.exchange.trail ++ es ∧
      Audit.Account es settlement.outcome := by
  obtain ⟨ds, enacts, asks⟩ := c.enacts_validate g.service s.toProceeding
  have told := validate_tells enacts
  have contained : ((g.fronting c).validate s).ending =
      (c.validate g.service s.toProceeding).ending.contained := (g.fronting c).validate_ending s
  have validated {a : Answer} (answer : ((g.fronting c).validate s).ending = .settled a) :
      Audit.Validated (ds.flatMap Deed.entries) a :=
    asks.validated falls exhausted silent (contained.symm.trans answer)
  cases course with
  | unvalidated => cases settled
  | @refused _ e validation refusal =>
    have whole := told.append_idle (refuse_tells (g.fronting c) e _)
    refine ⟨_, whole.trail, ?_⟩
    rw [outcome_of_refuse settled, ← ofDecision_of_refusal refusal]
    exact .validation (validated validation)
  | released validation sends =>
    cases settled
    refine ⟨_, told.trail, ?_⟩
    rw [← (ofDecision_of_send sends).1]
    exact .validation (validated validation)
  | denied validation =>
    cases settled
    exact ⟨_, told.trail, .validation (validated validation)⟩
  | unanswered => cases settled
  | @answered response _ _ _ validation service securing =>
    have success : (c.validate g.service s.toProceeding).ending = .settled (.ok (some .success)) :=
      Ending.contained_eq_settled_ok_iff.mp (contained.symm.trans validation)
    have open_ended : c.strategy.exhausted ≠ some .success := by
      rw [exhausted]
      simp [Strategy.firstMatch]
    obtain ⟨m, authenticated⟩ := Chain.authenticatedBy?_of_success open_ended success
    have performed : ((g.fronting c).validate s).state.toProceeding =
        (c.validate g.service s.toProceeding).state := (g.fronting c).validate_toProceeding s
    -- Neither the gate nor the resource can change who vouches.
    have vouched : c.authenticatedBy? ((g.fronting c).answered resource s response).toProceeding =
        some m := by
      rw [← authenticated, ← performed]
      rfl
    obtain ⟨fs, trail, account⟩ :=
      securing.account silent vouched (validated validation) settled
    refine ⟨_, ?_, account⟩
    rw [trail, ← List.append_assoc, ← told.trail]
    rfl

include silent in
theorem cleanup_trail_of_silent (t : Ticket) (s : Scene ω) :
    ((g.fronting c).cleanup t resource s).state.exchange.trail =
      ((g.fronting c).authenticate t resource s).state.exchange.trail := by
  obtain ⟨ds, enacts, cleaning⟩ :=
    c.enacts_clean ((g.fronting c).authenticate t resource s).state.toProceeding
  have occasions : ∀ d ∈ ds, d.occasion = .cleaning := by
    intro d done
    exact (cleaning d done).1
  have unnoted : ds.flatMap (·.visit.notes) = [] := by
    rw [List.flatMap_eq_nil_iff]
    intro d done
    have candidate := (cleaning d done).2.mem
    exact Deed.notes_of_silent (silent d.actor candidate)
  rw [cleanup_trail enacts occasions, unnoted, List.append_nil]

end

variable {c} in
/-- The outcome of every finished run can be read off the entries of its audit. -/
theorem process_audits_coherently
    (falls : c.strategy.fallsThrough = Strategy.firstMatch.fallsThrough)
    (exhausted : c.strategy.exhausted = Strategy.firstMatch.exhausted)
    (silent : ∀ m ∈ c.candidates, m.Silent) (fresh : String) (request : Request)
    (caller : Caller ω) {response : Response}
    (finished :
      ((g.fronting c).process fresh resource request caller).ending = .settled response) :
    ∃ event : Audit.Event,
      ((g.fronting c).process fresh resource request caller).journal.filter Event.isAudit =
        [.audited event] ∧
      event.Coherent := by
  let t := issue fresh request caller
  let s := opening fresh request caller
  obtain ⟨settlement, -, settled, -, -, audited⟩ := finished_of_process finished
  obtain ⟨es, trail, account⟩ :=
    ((g.fronting c).authenticate_course t resource s).account falls exhausted silent settled
  have start : s.exchange.trail = [] := rfl
  have entries : ((g.fronting c).cleanup t resource s).state.exchange.trail = es := by
    rw [cleanup_trail_of_silent silent, trail, start, List.nil_append]
  refine ⟨_, audited, Audit.Account.coherent ?_⟩
  change Audit.Account ((g.fronting c).cleanup t resource s).state.exchange.trail _
  rw [entries]
  exact account

/-- The session module defers, another one authenticates, and both secure: two entries of each
phase account for the success. -/
theorem process_audits_coherently_of_two :
    let c : Chain Audit.Ledger :=
      { session := some (deferring "mallory")
        modules := [admitting "alice"]
        strategy := { Strategy.firstMatch with sessionSecuresAfter := fun _ => true } }
    let g : Gate Audit.Ledger :=
      { sink := .recording
        responder := Negotiator.toResponder {}
        authenticator := Chain.toAuthenticator {} }
    let resource : Resource Audit.Ledger := ⟨fun _ c => (.settled {}, c)⟩
    let run := (g.fronting c).process "1" resource {} ⟨{}, {}⟩
    let told : Audit.Event :=
      { requestId := "1"
        principal := some "mallory"
        outcome := .success
        method := some "GET"
        path := some "/"
        entries :=
          [⟨"deferring", .validateRequest, .settled (some .sendFailure)⟩,
            ⟨"admitting", .validateRequest, .settled (some .success)⟩,
            ⟨"admitting", .secureResponse, .settled (some .sendSuccess)⟩,
            ⟨"deferring", .secureResponse, .settled (some .sendSuccess)⟩] }
    (∀ m ∈ c.candidates, m.Silent) ∧
    run.journal.filter Event.isAudit = [.audited told] ∧ told.Coherent := by
  intro c g resource run told
  have first : (deferring "mallory" : AuthModule Audit.Ledger).Silent :=
    ⟨fun _ _ _ => rfl, fun _ _ _ => rfl, fun _ _ => rfl⟩
  have second : (admitting "alice" : AuthModule Audit.Ledger).Silent :=
    ⟨fun _ _ _ => rfl, fun _ _ _ => rfl, fun _ _ => rfl⟩
  have silent : ∀ m ∈ c.candidates, m.Silent := by
    intro m candidate
    rcases List.mem_cons.mp candidate with rfl | other
    · exact first
    · rw [List.mem_singleton.mp other]
      exact second
  have finished : run.ending = .settled {} := rfl
  have audited : run.journal.filter Event.isAudit = [.audited told] := rfl
  obtain ⟨event, audits, coherent⟩ :=
    g.process_audits_coherently resource rfl rfl silent "1" {} ⟨{}, {}⟩ finished
  obtain rfl : told = event := by
    rw [audited] at audits
    cases audits
    rfl
  exact ⟨silent, audited, coherent⟩

end Gate

end Gatekeeper
