import Gatekeeper.Chain.Phases
import Gatekeeper.Proofs.Gate.Course

namespace Gatekeeper

open Act (Upholds)

variable {ω α : Type}

namespace AuthModule

variable {holds : Proceeding ω → Prop} {may : Activity → Prop} {m : AuthModule ω}

theorem decide_upholds {phase : Phase} {visit : Duty ω Answer} (visits : Upholds holds may visit)
    (notes : ∀ a, Upholds holds may (noteDecision m.id phase a)) :
    Upholds holds may (m.decide phase visit) := by
  have guarded := visits.guarded
  refine guarded.bind ?_
  intro a
  exact (notes a).seq (.pure a)

end AuthModule

namespace Chain

variable {holds : Proceeding ω → Prop} {may : Activity → Prop} {service : Subject}

section

variable (asks : ∀ (m : AuthModule ω) place, Upholds holds may (m.validateAt place service))
  (notes : ∀ id a, Upholds holds may (noteDecision id .validateRequest a))
  (vouches : ∀ place, Upholds holds may (vouch place))

include asks notes vouches

theorem walk_upholds (s : Strategy) (place : Nat) (ms : List (AuthModule ω)) :
    Upholds holds may (walk s service place ms) := by
  induction ms generalizing place with
  | nil => exact .pure _
  | cons m ms ih =>
    have decides : Upholds holds may (m.decideValidation place service) :=
      AuthModule.decide_upholds (asks m place) (notes m.id)
    refine decides.bind ?_
    intro a
    cases a with
    | error e => exact .pure _
    | ok v =>
      dsimp only
      split
      · exact ih (place + 1)
      · split
        · exact (vouches _).seq (.pure _)
        · exact Upholds.seq (.pure ()) (.pure _)

theorem validate_upholds (c : Chain ω) : Upholds holds may (c.validate service) := by
  have walks := walk_upholds asks notes vouches c.strategy 0 c.candidates
  exact (vouches none).seq walks

end

section

variable (secures : ∀ (m : AuthModule ω) place, Upholds holds may (m.secureAt place service))
  (notes : ∀ id a, Upholds holds may (noteDecision id .secureResponse a))

include secures notes

theorem secureSession_upholds (c : Chain ω) (place : Nat) (v : Option Verdict) :
    Upholds holds may (c.secureSession service place v) := by
  unfold secureSession
  split
  · split
    · exact AuthModule.decide_upholds (secures _ 0) (notes _)
    · exact .pure _
  · exact .pure _

theorem secure_upholds (c : Chain ω) : Upholds holds may (c.secure service) := by
  refine .get_bind ?_
  intro p _
  cases p.vouchedBy with
  | none => exact .pure _
  | some place =>
    dsimp only
    cases c.candidates[place]? with
    | none => exact .pure _
    | some m =>
      have decides : Upholds holds may (m.decideSecuring place service) :=
        AuthModule.decide_upholds (secures m place) (notes m.id)
      refine decides.bind ?_
      intro a
      cases a with
      | error e => exact .pure _
      | ok v => exact secureSession_upholds secures notes c place v

end

end Chain

namespace Gate

variable {g : Gate ω} {t : Ticket} {resource : Resource ω}
variable {holds : Scene ω → Prop} {may : Event → Prop}

/-- A phase upholds what the duty behind it does. -/
theorem perform_upholds {holds : Proceeding ω → Prop} {event : Scene ω → Event}
    {d : Duty ω (Except AuthError α)} (behind : Upholds holds (fun a => may (.ofActivity a)) d)
    (own : ∀ s, holds s.toProceeding → may (event s)) :
    Upholds (fun s => holds s.toProceeding) may (perform event d) := by
  intro s here
  obtain ⟨state, journal⟩ := behind s.toProceeding here
  rw [perform_apply]
  refine ⟨state, ?_⟩
  intro e member
  rcases List.mem_cons.mp member with rfl | later
  · exact own s here
  · obtain ⟨a, done, rfl⟩ := List.mem_map.mp later
    exact journal a done

theorem dispatch_upholds (keeps : ∀ s, holds s → holds (dispatch resource s).state)
    (own : ∀ s, holds s → may (.dispatched s.attributes s.exchange.request)) :
    Upholds holds may (dispatch resource) := by
  intro s here
  have noted := own s here
  rw [dispatch_journal]
  exact ⟨keeps s here, List.forall_mem_singleton.mpr noted⟩

/-- Every step of a run before cleaning upholds this. -/
structure Upholding (g : Gate ω) (t : Ticket) (resource : Resource ω) (holds : Scene ω → Prop)
    (may : Event → Prop) : Prop where
  tells : ∀ level message, Upholds holds may (g.say t level message)
  validates : Upholds holds may g.validate
  secures : Upholds holds may g.secure
  refuses : ∀ e, Upholds holds may (g.refuse e)
  releases : ∀ outcome, Upholds holds may (release outcome)
  grants : Upholds holds may g.grant
  dispatches : Upholds holds may (dispatch resource)

namespace Upholding

variable (steps : g.Upholding t resource holds may)

include steps

theorem settleSecuring (a : Answer) : Upholds holds may (g.settleSecuring t a) := by
  unfold Gate.settleSecuring
  split
  · exact steps.releases .success
  · exact steps.releases .success
  · exact (steps.tells .warn _).seq (.pure _)
  · exact (steps.tells .error _).seq (steps.refuses _)
  · exact (steps.tells .warn _).seq (steps.refuses _)

theorem serveAuthenticated : Upholds holds may (g.serveAuthenticated t resource) := by
  have told := steps.tells .debug "dispatching request"
  have settles : Upholds holds may (g.secure >>= g.settleSecuring t) :=
    steps.secures.bind steps.settleSecuring
  exact steps.grants.seq (told.seq (steps.dispatches.seq settles))

theorem settleValidation (v : Option Verdict) :
    Upholds holds may (g.settleValidation t resource v) := by
  unfold Gate.settleValidation
  split
  · exact steps.serveAuthenticated
  · exact steps.releases .continued
  · exact steps.releases .continued
  · exact .pure _
  · exact (steps.tells .error _).seq (steps.refuses _)

theorem authenticate : Upholds holds may (g.authenticate t resource) := by
  refine steps.validates.bind ?_
  intro a
  cases a with
  | error e =>
    have told := steps.tells .warn ("request validation failed: " ++ e.message)
    exact told.seq (steps.refuses e)
  | ok v =>
    have told := steps.tells .debug ("validate_request settled: " ++ Verdict.describe v)
    exact told.seq (steps.settleValidation v)

end Upholding

end Gate

end Gatekeeper
