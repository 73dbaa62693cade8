import Gatekeeper.Module.Blocking
import Gatekeeper.Proofs.Chain.Paired
import Gatekeeper.Proofs.Gate.Dispatch
import Gatekeeper.Proofs.Gate.Principal

namespace Gatekeeper

open Http (Request Response)

variable {ω κ φ ρ : Type}

/-- How a crash reads as an error. -/
def Crash.toError : Crash → AuthError
  | .text message =>
    { message := "authentication module panicked: " ++ message, statusHint := none, causes := [] }
  | .other =>
    { message := "authentication module panicked: unknown panic", statusHint := none, causes := [] }

theorem Crash.toError_eq_ofCrash (c : Crash) : c.toError = .ofCrash c := by
  cases c <;> rfl

namespace Visit

/-- The second visit leaves what the first leaves, and fails if the first crashed. -/
def TamedBy (v v' : Visit κ (Ending (Except AuthError ρ))) : Prop :=
  v' = v ∨ ∃ c, v.result = .halted (.crashed c) ∧ v' = v.map fun _ => .settled (.error c.toError)

theorem TamedBy.contained {v v' : Visit κ (Ending (Except AuthError ρ))} (tame : v.TamedBy v') :
    v'.map Ending.contained = v.map Ending.contained := by
  rcases tame with rfl | ⟨c, crashed, rfl⟩
  · rfl
  · simp [Visit.map, crashed, Ending.contained, c.toError_eq_ofCrash]

end Visit

/-- The same of a blocking module, as which it would have crashed and does not. -/
def BlockingModule.Tames (b : BlockingModule ω φ) (v : Visit κ (Except Crash (Except φ ρ)))
    (v' : Visit κ (Ending (Except AuthError ρ))) : Prop :=
  v' = v.map b.answer ∨
    ∃ c, v.result = .error c ∧ v' = v.map fun _ => .settled (.error c.toError)

/-- A crash passes through the adaptation as it is, so that what tames it tames the adapted
visit. -/
theorem BlockingModule.Tames.adapted {b : BlockingModule ω φ}
    {v : Visit κ (Except Crash (Except φ ρ))} {v' : Visit κ (Ending (Except AuthError ρ))}
    (tame : b.Tames v v') : (v.map b.answer).TamedBy v' := by
  rcases tame with rfl | ⟨c, crashed, rfl⟩
  · exact .inl rfl
  · have passed : (v.map b.answer).result = .halted (.crashed c) := by
      simp [Visit.map, crashed, BlockingModule.answer, Except.map, Ending.ofExcept]
    exact .inr ⟨c, passed, rfl⟩

/-- The second module fails in some of the phases in which the first one crashes. The first one may
be a blocking module that has been adapted. -/
inductive AuthModule.TamedBy : AuthModule ω → AuthModule ω → Prop
  | waiting {m m' : AuthModule ω} (id : m'.id = m.id)
      (validate : ∀ service x held,
        (m.validate service x held).TamedBy (m'.validate service x held))
      (secure : ∀ service x held, (m.secure service x held).TamedBy (m'.secure service x held))
      (clean : ∀ x held, (m.clean x held).TamedBy (m'.clean x held)) : TamedBy m m'
  | blocking {φ : Type} {b : BlockingModule ω φ} {p : BlockingPhases ω φ} {m' : AuthModule ω}
      (id : m'.id = b.id)
      (validate : ∀ service x held,
        b.Tames (p.validate service x held) (m'.validate service x held))
      (secure : ∀ service x held, b.Tames (p.secure service x held) (m'.secure service x held))
      (clean : ∀ x held, b.Tames (p.clean x held) (m'.clean x held)) :
      TamedBy { b.adapt p with id := b.id } m'

namespace AuthModule

variable {m m' : AuthModule ω}

/-- The guard cannot tell the two apart. -/
structure EqUpToGuard (m m' : AuthModule ω) : Prop where
  id : m'.id = m.id
  validate : ∀ service x held,
    (m'.validate service x held).map Ending.contained =
      (m.validate service x held).map Ending.contained
  secure : ∀ service x held,
    (m'.secure service x held).map Ending.contained =
      (m.secure service x held).map Ending.contained
  clean : ∀ x held,
    (m'.clean x held).map Ending.contained = (m.clean x held).map Ending.contained

theorem TamedBy.eqUpToGuard (tame : m.TamedBy m') : m.EqUpToGuard m' := by
  cases tame with
  | waiting id validate secure clean =>
    exact
      { id
        validate := fun service x held => (validate service x held).contained
        secure := fun service x held => (secure service x held).contained
        clean := fun x held => (clean x held).contained }
  | blocking id validate secure clean =>
    exact
      { id
        validate := fun service x held => (validate service x held).adapted.contained
        secure := fun service x held => (secure service x held).adapted.contained
        clean := fun x held => (clean x held).adapted.contained }

/-- What the guard makes of a phase hangs on what it makes of the visit. -/
theorem engage_contained (id : m'.id = m.id) (place : Nat) (call : Call)
    {work work' : Work κ (Ending (Except AuthError ρ))} (held : Proceeding ω → κ)
    (give : κ → Proceeding ω → Proceeding ω) {p : Proceeding ω}
    (alike : (work' p.exchange (held p)).map Ending.contained =
      (work p.exchange (held p)).map Ending.contained) :
    { m'.engage place call work' held give p with
      ending := (m'.engage place call work' held give p).ending.contained } =
    { m.engage place call work held give p with
      ending := (m.engage place call work held give p).ending.contained } := by
  simp only [Visit.map, Visit.mk.injEq] at alike
  obtain ⟨result, draft, notes, kept⟩ := alike
  simp only [engage, id, result, draft, notes, kept]

namespace EqUpToGuard

variable (alike : m.EqUpToGuard m')

include alike

theorem decides : m.SameDecisions m' where
  validation place service := by
    have guard : (m'.validateAt place service).guarded = (m.validateAt place service).guarded := by
      funext p
      have visit := alike.validate service p.exchange p.toCustody
      rw [Act.guarded_apply, Act.guarded_apply]
      exact engage_contained alike.id place _ _ _ visit
    exact decide_congr alike.id guard .validateRequest
  securing place service := by
    have guard : (m'.secureAt place service).guarded = (m.secureAt place service).guarded := by
      funext p
      have visit := alike.secure service p.exchange p.memory
      rw [Act.guarded_apply, Act.guarded_apply]
      exact engage_contained alike.id place _ _ _ visit
    exact decide_congr alike.id guard .secureResponse

theorem attemptCleaning (place : Nat) : m'.attemptCleaning place = m.attemptCleaning place := by
  have guard : (m'.cleanAt place).guarded = (m.cleanAt place).guarded := by
    funext p
    have visit := alike.clean p.exchange p.toCustody
    rw [Act.guarded_apply, Act.guarded_apply]
    exact engage_contained alike.id place _ _ _ visit
  rw [AuthModule.attemptCleaning, AuthModule.attemptCleaning, guard, alike.id]

end EqUpToGuard

end AuthModule

namespace Chain

open AuthModule (SameDecisions EqUpToGuard)

theorem cleanFrom_of_eqUpToGuard {ms ms' : List (AuthModule ω)}
    (alike : List.Forall₂ EqUpToGuard ms ms') (place : Nat) :
    cleanFrom place ms' = cleanFrom place ms := by
  induction alike generalizing place with
  | nil => rfl
  | cons alike _ ih => simp only [cleanFrom, alike.attemptCleaning, ih]

theorem toAuthenticator_of_eqUpToGuard {c c' : Chain ω} (alike : c.Paired EqUpToGuard c') :
    c'.toAuthenticator = c.toAuthenticator := by
  have decides : c.Paired SameDecisions c' := alike.imp fun _ _ alike => alike.decides
  have validate : c'.validate = c.validate := funext (validate_of_sameDecisions decides)
  have secure : c'.secure = c.secure := funext (secure_of_sameDecisions decides)
  have clean : c'.clean = c.clean := cleanFrom_of_eqUpToGuard alike.candidates 0
  have ids : c'.moduleIds = c.moduleIds := alike.moduleIds fun _ _ alike => alike.id
  rw [toAuthenticator, toAuthenticator, ids, validate, secure, clean]

end Chain

namespace Gate

variable (g : Gate ω) (resource : Resource ω)

/-- One that is not a module breaks off with this crash: the resource, the responder or the sink. -/
inductive Breaks (crash : Crash) : Prop
  | resource {request caller}
      (crashed : (resource.handle request caller).1 = .halted (.crashed crash))
  | responder {x e memory} (crashed : (g.responder.respond x e memory).1 = .error crash)
  | sink {event memory} (crashed : (g.sink.receive event memory).answer = .error crash)

section

variable {g resource}
variable {s final : Scene ω} {calls : List Event} {ending : Ending Settlement} {crash : Crash}

theorem perform_ne_crashed {α : Type} (event : Scene ω → Event) (d : Duty ω (Except AuthError α)) :
    (perform event d s).ending ≠ .halted (.crashed crash) := by
  rw [perform_apply]
  exact Ending.contained_ne_crashed (d s.toProceeding).ending crash

theorem breaks_of_refuse {e : AuthError}
    (crashed : (g.refuse e s).ending = .halted (.crashed crash)) : g.Breaks resource crash := by
  rw [refuse_apply] at crashed
  cases answer : (g.responder.respond s.exchange e s.memory).1 with
  | ok response =>
    rw [answer] at crashed
    cases crashed
  | error c =>
    rw [answer] at crashed
    cases crashed
    exact .responder answer

theorem Securing.breaks (securing : g.Securing s calls ending final)
    (crashed : ending = .halted (.crashed crash)) : g.Breaks resource crash := by
  cases securing with
  | unsettled halted =>
    cases crashed
    exact (perform_ne_crashed _ _ halted).elim
  | delivered => cases crashed
  | withheld => cases crashed
  | refused => exact breaks_of_refuse crashed

theorem Course.breaks (course : g.Course resource s calls ending final)
    (crashed : ending = .halted (.crashed crash)) : g.Breaks resource crash := by
  cases course with
  | unvalidated halted =>
    cases crashed
    exact (perform_ne_crashed _ _ halted).elim
  | refused => exact breaks_of_refuse crashed
  | released => cases crashed
  | denied => cases crashed
  | unanswered _ service =>
    cases crashed
    exact .resource service
  | answered _ _ securing => exact securing.breaks crashed

end

/-- No crash of a module gets out of the gate. -/
theorem breaks_of_process {fresh : String} {request : Request} {caller : Caller ω} {crash : Crash}
    (crashed : (g.process fresh resource request caller).ending = .halted (.crashed crash)) :
    g.Breaks resource crash := by
  obtain ⟨principal, outcome, ending, closing, -, -, ends⟩ :=
    g.process_reports resource fresh request caller
  rw [crashed] at ends
  split at ends
  · cases closing with
    | abandoned halted =>
      cases ends
      exact (g.authenticate_course _ resource _).breaks halted
    | uncleaned _ halted =>
      cases ends
      exact (perform_ne_crashed _ _ halted).elim
    | finished => cases ends
  · next answer =>
    cases ends
    exact .sink answer

/-- Behind the same gate a chain whose modules crash and one whose modules fail in their place make
the same run, with the same calls, log, audit, attributes and response; and no crash gets out of it
but one of the resource, the responder or the sink. -/
theorem process_contains_crashes {c c' : Chain ω} (tame : c.Paired AuthModule.TamedBy c')
    (fresh : String) (request : Request) (caller : Caller ω) :
    (g.fronting c').process fresh resource request caller =
      (g.fronting c).process fresh resource request caller ∧
    ∀ crash,
      ((g.fronting c).process fresh resource request caller).ending = .halted (.crashed crash) →
      g.Breaks resource crash := by
  have near : c.Paired AuthModule.EqUpToGuard c' := tame.imp fun _ _ tame => tame.eqUpToGuard
  have same : g.fronting c' = g.fronting c := by
    rw [fronting, fronting, Chain.toAuthenticator_of_eqUpToGuard near]
  constructor
  · rw [same]
  · intro crash crashed
    have breaks := (g.fronting c).breaks_of_process resource crashed
    cases breaks with
    | resource crashed => exact .resource crashed
    | responder crashed => exact .responder crashed
    | sink crashed => exact .sink crashed

/-- A module that crashes over a request, with no text, after it has published something, and a
blocking one behind it that crashes over its cleaning. -/
theorem process_contains_crashes_of_two :
    let breaking (result : Ending Answer) : AuthModule Audit.Ledger :=
      { admitting "alice" with
        validate := fun _ x held =>
          { result, draft := x.toDraft.publish "realm" (.string "staff"), kept := held } }
    let phases : BlockingPhases Audit.Ledger Unit :=
      { validate := fun _ x held => { result := .ok (.ok none), draft := x.toDraft, kept := held }
        secure := fun _ x held => { result := .ok (.ok none), draft := x.toDraft, kept := held }
        clean := fun x held =>
          { result := .error (.text "cache poisoned"), draft := x.toDraft, kept := held } }
    let ldap : BlockingModule Audit.Ledger Unit :=
      { id := "ldap"
        messageTypes := MessageType.http
        fault := ⟨fun _ => "unreachable", fun _ => []⟩
        setUp := fun _ memory => (.ok (.ok phases), memory) }
    let adapted : AuthModule Audit.Ledger := { ldap.adapt phases with id := ldap.id }
    let tamed : AuthModule Audit.Ledger :=
      { adapted with
        clean := fun x held =>
          { result := .settled (.error
              { message := "authentication module panicked: cache poisoned" })
            draft := x.toDraft, kept := held } }
    let crashing : Chain Audit.Ledger :=
      { modules := [breaking (.halted (.crashed .other)), adapted] }
    let failing : Chain Audit.Ledger :=
      { modules :=
          [breaking
              (.settled (.error { message := "authentication module panicked: unknown panic" })),
            tamed] }
    let g : Gate Audit.Ledger :=
      { sink := .recording, responder := Negotiator.toResponder {}
        authenticator := crashing.toAuthenticator }
    let resource : Resource Audit.Ledger := ⟨fun _ c => (.settled {}, c)⟩
    crashing.Paired AuthModule.TamedBy failing ∧
    (g.fronting failing).process "1" resource {} ⟨{}, {}⟩ =
      (g.fronting crashing).process "1" resource {} ⟨{}, {}⟩ := by
  intro breaking phases ldap adapted tamed crashing failing g resource
  have first : AuthModule.TamedBy (breaking (.halted (.crashed .other)))
      (breaking (.settled (.error Crash.other.toError))) := by
    apply AuthModule.TamedBy.waiting
    case id => rfl
    case validate => exact fun _ _ _ => .inr ⟨.other, rfl, rfl⟩
    case secure => exact fun _ _ _ => .inl rfl
    case clean => exact fun _ _ => .inl rfl
  have second : AuthModule.TamedBy adapted tamed := by
    apply AuthModule.TamedBy.blocking
    case id => rfl
    case validate => exact fun _ _ _ => .inl rfl
    case secure => exact fun _ _ _ => .inl rfl
    case clean => exact fun _ _ => .inr ⟨.text "cache poisoned", rfl, rfl⟩
  have tame : crashing.Paired AuthModule.TamedBy failing :=
    ⟨.none, .cons first (.cons second .nil), rfl⟩
  exact ⟨tame, (g.process_contains_crashes resource tame "1" {} ⟨{}, {}⟩).1⟩

end Gate

end Gatekeeper
