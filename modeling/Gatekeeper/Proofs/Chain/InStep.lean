import Gatekeeper.Proofs.Chain.Paired
import Gatekeeper.Proofs.Leeway

namespace Gatekeeper

variable {ω ν α α' : Type}

/-- How the runs of two chains are held against each other: what is noted of them, which proceedings
count as the same, and where in the second chain a module of the first one stands. All that a chain
does itself is to vouch and to note decisions. -/
structure Alignment (ω ν : Type) where
  watch : Watch Activity ν
  like : Proceeding ω → Proceeding ω → Prop
  place : Nat → Nat
  vouchedBy : ∀ {p p'}, like p p' → p'.vouchedBy = p.vouchedBy.map place
  vouches : ∀ {p p'} (n : Option Nat), like p p' →
    like { p with vouchedBy := n } { p' with vouchedBy := n.map place }
  notes : ∀ moduleId phase a,
    Act.InStep watch like (fun _ _ => True) (noteDecision moduleId phase a)
      (noteDecision moduleId phase a)

abbrev Alignment.InStep (al : Alignment ω ν) (same : α → α' → Prop) (d : Duty ω α)
    (d' : Duty ω α') : Prop :=
  Act.InStep al.watch al.like same d d'

variable {al : Alignment ω ν} {service service' : Subject} {m m' : AuthModule ω}

/-- The two modules validate in step and secure in step, wherever they stand. -/
structure AuthModule.DecidesInStep (al : Alignment ω ν) (service service' : Subject)
    (m m' : AuthModule ω) : Prop where
  id : m'.id = m.id
  validateAt : ∀ n, al.InStep Eq (m.validateAt n service) (m'.validateAt (al.place n) service')
  secureAt : ∀ n, al.InStep Eq (m.secureAt n service) (m'.secureAt (al.place n) service')

namespace AuthModule

theorem decide_inStep (id : m'.id = m.id) (phase : Phase) {visit visit' : Duty ω Answer}
    (visits : al.InStep Eq visit visit') :
    al.InStep Eq (m.decide phase visit) (m'.decide phase visit') := by
  have guarded : al.InStep Eq visit.guarded visit'.guarded := visits.guarded fun _ => rfl
  unfold AuthModule.decide
  rw [id]
  refine guarded.bind_eq ?_
  intro a
  exact (al.notes m.id phase a).seq (.pure rfl)

namespace DecidesInStep

variable (decides : m.DecidesInStep al service service' m') (n : Nat)

include decides

theorem validation :
    al.InStep Eq (m.decideValidation n service) (m'.decideValidation (al.place n) service') :=
  decide_inStep decides.id .validateRequest (decides.validateAt n)

theorem securing :
    al.InStep Eq (m.decideSecuring n service) (m'.decideSecuring (al.place n) service') :=
  decide_inStep decides.id .secureResponse (decides.secureAt n)

end DecidesInStep

end AuthModule

namespace Chain

open AuthModule (DecidesInStep)

/-- From `n` on in the one chain and from `n'` on in the other the places correspond. -/
def Abreast (place : Nat → Nat) (n n' : Nat) (ms : List (AuthModule ω)) : Prop :=
  ∀ i < ms.length, place (n + i) = n' + i

namespace Abreast

variable {place : Nat → Nat} {n n' : Nat} {ms : List (AuthModule ω)}

theorem here (abreast : Abreast place n n' (m :: ms)) : place n = n' :=
  abreast 0 (Nat.succ_pos _)

theorem later (abreast : Abreast place n n' (m :: ms)) : Abreast place (n + 1) (n' + 1) ms := by
  intro i inside
  rw [Nat.add_right_comm, Nat.add_right_comm n' 1 i]
  exact abreast (i + 1) (Nat.succ_lt_succ inside)

end Abreast

/-- To the candidates of the one chain correspond those of the other at these places, and a session
module is the first in both. -/
structure PairedAt (place : Nat → Nat) (like : AuthModule ω → AuthModule ω → Prop)
    (c c' : Chain ω) : Prop where
  strategy : c'.strategy = c.strategy
  session : Option.Rel like c.session c'.session
  candidate : ∀ n, Option.Rel like c.candidates[n]? c'.candidates[place n]?
  first : c.session.isSome → ∀ n, place n = 0 ↔ n = 0

theorem PairedAt.imp {place : Nat → Nat} {like like' : AuthModule ω → AuthModule ω → Prop}
    {c c' : Chain ω} (paired : c.PairedAt place like c')
    (imp : ∀ m m', like m m' → like' m m') : c.PairedAt place like' c' where
  strategy := paired.strategy
  session := Paired.rel_imp imp paired.session
  candidate n := Paired.rel_imp imp (paired.candidate n)
  first := paired.first

/-- Every module stays at its place. -/
theorem Paired.stay {like : AuthModule ω → AuthModule ω → Prop} {c c' : Chain ω}
    (paired : c.Paired like c') {place : Nat → Nat} (stays : ∀ n, place n = n) :
    c.PairedAt place like c' where
  strategy := paired.strategy
  session := paired.session
  candidate n := by
    rw [stays]
    exact paired.candidate n
  first _ n := by rw [stays]

theorem vouch_inStep (n : Option Nat) :
    al.InStep (fun _ _ => True) (vouch n) (vouch (n.map al.place)) := by
  refine .modify ?_
  intro p p' related
  exact al.vouches n related

variable {ms ms' : List (AuthModule ω)} {n n' : Nat} {c c' : Chain ω}

theorem walk_inStep (decide : List.Forall₂ (DecidesInStep al service service') ms ms')
    (s : Strategy) (abreast : Abreast al.place n n' ms) :
    al.InStep Eq (walk s service n ms) (walk s service' n' ms') := by
  induction decide generalizing n n' with
  | nil => exact .pure rfl
  | cons decides _ ih =>
    have here := abreast.here
    subst here
    refine (decides.validation n).bind_eq ?_
    intro a
    cases a with
    | error e => exact .pure rfl
    | ok v =>
      dsimp only
      split
      · exact ih abreast.later
      · split
        · exact (vouch_inStep (some n)).seq (.pure rfl)
        · exact .pure rfl

theorem validate_inStep (paired : c.Paired (DecidesInStep al service service') c')
    (stays : ∀ n, al.place n = n) : al.InStep Eq (c.validate service) (c'.validate service') := by
  have abreast : Abreast al.place 0 0 c.candidates := by
    intro i _
    exact stays (0 + i)
  have walks := walk_inStep paired.candidates c.strategy abreast
  unfold validate
  rw [paired.strategy]
  exact (vouch_inStep none).seq walks

theorem secureSession_inStep (paired : c.PairedAt al.place (DecidesInStep al service service') c')
    (n : Nat) (v : Option Verdict) :
    al.InStep Eq (c.secureSession service n v) (c'.secureSession service' (al.place n) v) := by
  obtain ⟨strategy, session, -, first⟩ := paired
  unfold secureSession
  rw [strategy]
  generalize c.session = o at session first
  generalize c'.session = o' at session
  cases session with
  | none => exact .pure rfl
  | some decides =>
    have stays : al.place 0 = 0 := (first rfl 0).mpr rfl
    have securing := decides.securing 0
    rw [stays] at securing
    simp only [ne_eq, first rfl n]
    split
    · exact securing
    · exact .pure rfl

theorem secure_inStep (paired : c.PairedAt al.place (DecidesInStep al service service') c') :
    al.InStep Eq (c.secure service) (c'.secure service') := by
  refine .get_bind ?_
  intro p p' related
  rw [al.vouchedBy related]
  cases p.vouchedBy with
  | none => exact .pure rfl
  | some n =>
    have candidate := paired.candidate n
    dsimp only [Option.map_some]
    generalize c.candidates[n]? = o at candidate
    generalize c'.candidates[al.place n]? = o' at candidate
    cases candidate with
    | none => exact .pure rfl
    | some decides =>
      refine (decides.securing n).bind_eq ?_
      intro a
      cases a with
      | error e => exact .pure rfl
      | ok v => exact secureSession_inStep paired n v

end Chain

variable {l : Leeway ω}

/-- In step on proceedings that are the same up to the leeway; the activities are watched as events
of the gate. -/
abbrev Duty.InStep (l : Leeway ω) (same : α → α' → Prop) (d : Duty ω α) (d' : Duty ω α') : Prop :=
  Act.InStep (l.watch.comap Event.ofActivity) (Proceeding.EqUpTo l) same d d'

theorem Proceeding.EqUpTo.recordDecision {p p' : Proceeding ω} (near : p.EqUpTo l p')
    (moduleId : String) (phase : Phase) (a : Answer) :
    (p.recordDecision moduleId phase a).EqUpTo l (p'.recordDecision moduleId phase a) where
  custody := near.custody
  exchange :=
    { draft := near.exchange.draft
      id := near.exchange.id
      trail := by cases a <;> exact l.grows _ near.exchange.trail }
  vouchedBy := near.vouchedBy

theorem noteDecision_inStep (moduleId : String) (phase : Phase) (a : Answer) :
    Duty.InStep l (fun _ _ => True) (noteDecision moduleId phase a)
      (noteDecision moduleId phase a) := by
  refine .get_bind ?_
  intro p p' near
  have shown := l.shows (.logged (decisionRecord p.exchange.id moduleId phase a))
  rw [near.exchange.id]
  refine .seq (.emit shown) (.modify ?_)
  intro q q' near
  exact near.recordDecision moduleId phase a

abbrev Leeway.alignment (l : Leeway ω) : Alignment ω Event where
  watch := l.watch.comap Event.ofActivity
  like := Proceeding.EqUpTo l
  place := l.place
  vouchedBy near := near.vouchedBy
  vouches _ near := ⟨near.custody, near.exchange, rfl⟩
  notes := noteDecision_inStep

namespace AuthModule.EqUpTo

variable (near : m.EqUpTo l m') (n : Nat)

include near

theorem called {call call' : Call} (alike : call.EqUpTo l.subjects l.trails call') :
    [Activity.called n m.id call].filterMap (l.watch.comap Event.ofActivity).first =
      [Activity.called (l.place n) m'.id call'].filterMap
        (l.watch.comap Event.ofActivity).second := by
  rw [near.id]
  exact l.noted (.called n m.id alike)

theorem decidesInStep (services : l.subjects service service') :
    m.DecidesInStep l.alignment service service' m' where
  id := near.id
  validateAt n p p' held := by
    have visits := near.phases.validate services held.exchange held.custody
    have noted := near.called n (.validate held.exchange held.custody.client services)
    have exchange := held.exchange.revise visits.draft visits.notes
    exact ⟨.of_eq visits.result, ⟨visits.kept, exchange, held.vouchedBy⟩, noted⟩
  secureAt n p p' held := by
    have visits := near.phases.secure services held.exchange held.custody.memory
    have noted := near.called n (.secure held.exchange services)
    have exchange := held.exchange.revise visits.draft visits.notes
    have custody : Custody.EqUpTo l.subjects l.memory (m.secureAt n service p).state.toCustody
        (m'.secureAt (l.place n) service' p').state.toCustody := ⟨held.custody.client, visits.kept⟩
    exact ⟨.of_eq visits.result, ⟨custody, exchange, held.vouchedBy⟩, noted⟩

theorem cleanAt : Duty.InStep l Eq (m.cleanAt n) (m'.cleanAt (l.place n)) := by
  intro p p' held
  have visits := near.phases.clean held.exchange held.custody
  have noted := near.called n (.clean held.exchange held.custody.client)
  have exchange := held.exchange.revise visits.draft visits.notes
  exact ⟨.of_eq visits.result, ⟨visits.kept, exchange, held.vouchedBy⟩, noted⟩

theorem attemptCleaning :
    Duty.InStep l Eq (m.attemptCleaning n) (m'.attemptCleaning (l.place n)) := by
  have guarded : Duty.InStep l Eq (m.cleanAt n).guarded (m'.cleanAt (l.place n)).guarded :=
    (near.cleanAt n).guarded fun _ => rfl
  unfold AuthModule.attemptCleaning
  rw [near.id]
  refine guarded.bind_eq ?_
  intro a
  cases a with
  | ok done => exact .pure rfl
  | error e =>
    refine .get_bind ?_
    intro p p' held
    have shown := l.shows (.logged (uncleanRecord p.exchange.id m.id e))
    rw [held.exchange.id]
    exact .seq (.emit shown) (.pure rfl)

end AuthModule.EqUpTo

/-- Whatever `same` means, as long as equal results are the same. -/
theorem Chain.cleanFrom_inStep {ms ms' : List (AuthModule ω)} {n n' : Nat}
    {same : Except AuthError Unit → Except AuthError Unit → Prop} (refl : ∀ a, same a a)
    (near : List.Forall₂ (AuthModule.EqUpTo l) ms ms') (abreast : Abreast l.place n n' ms) :
    Duty.InStep l same (cleanFrom n ms) (cleanFrom n' ms') := by
  induction near generalizing n n' with
  | nil => exact .pure (refl _)
  | cons near _ ih =>
    have here := abreast.here
    subst here
    refine (near.attemptCleaning n).bind_eq ?_
    intro a
    refine (ih abreast.later).bind ?_
    intro others others' alike
    cases a with
    | error e => exact .pure (refl _)
    | ok done => exact .pure alike

end Gatekeeper
