import Gatekeeper.Chain.Phases
import Mathlib.Data.List.Forall2

namespace Gatekeeper

variable {ω : Type}

/-- The two validate alike and secure alike, behind the guard and with the decision noted. -/
structure AuthModule.SameDecisions (m m' : AuthModule ω) : Prop where
  validation : ∀ place service,
    m'.decideValidation place service = m.decideValidation place service
  securing : ∀ place service, m'.decideSecuring place service = m.decideSecuring place service

theorem AuthModule.decide_congr {m m' : AuthModule ω} {visit visit' : Duty ω Answer}
    (id : m'.id = m.id) (guard : visit'.guarded = visit.guarded) (phase : Phase) :
    m'.decide phase visit' = m.decide phase visit := by
  rw [AuthModule.decide, AuthModule.decide, guard, id]

namespace Chain

structure Paired (like : AuthModule ω → AuthModule ω → Prop) (c c' : Chain ω) : Prop where
  session : Option.Rel like c.session c'.session
  modules : List.Forall₂ like c.modules c'.modules
  strategy : c'.strategy = c.strategy

namespace Paired

theorem toList {α : Type} {like : α → α → Prop} {o o' : Option α} (pair : Option.Rel like o o') :
    List.Forall₂ like o.toList o'.toList := by
  cases pair with
  | none => exact .nil
  | some pair => exact .cons pair .nil

theorem rel_imp {α : Type} {like like' : α → α → Prop} {o o' : Option α}
    (imp : ∀ a a', like a a' → like' a a') (pair : Option.Rel like o o') :
    Option.Rel like' o o' := by
  cases pair with
  | none => exact .none
  | some pair => exact .some (imp _ _ pair)

theorem rel_self {α : Type} {like : α → α → Prop} {o : Option α} (h : ∀ a ∈ o, like a a) :
    Option.Rel like o o := by
  cases o with
  | none => exact .none
  | some a => exact .some (h a rfl)

theorem getElem? {α : Type} {like : α → α → Prop} {l l' : List α}
    (pairs : List.Forall₂ like l l') (place : Nat) : Option.Rel like l[place]? l'[place]? := by
  induction pairs generalizing place with
  | nil => exact .none
  | cons pair _ ih =>
    cases place with
    | zero => exact .some pair
    | succ place => exact ih place

variable {like : AuthModule ω → AuthModule ω → Prop} {c c' : Chain ω}

theorem imp {like' : AuthModule ω → AuthModule ω → Prop} (paired : Paired like c c')
    (imp : ∀ m m', like m m' → like' m m') : Paired like' c c' where
  session := rel_imp imp paired.session
  modules := paired.modules.imp imp
  strategy := paired.strategy

theorem candidates (paired : Paired like c c') :
    List.Forall₂ like c.candidates c'.candidates :=
  List.rel_append (toList paired.session) paired.modules

theorem candidate (paired : Paired like c c') (place : Nat) :
    Option.Rel like c.candidates[place]? c'.candidates[place]? :=
  getElem? paired.candidates place

theorem moduleIds (paired : Paired like c c') (ids : ∀ m m', like m m' → m'.id = m.id) :
    c'.moduleIds = c.moduleIds := by
  have same : List.Forall₂ (fun m m' => m.id = m'.id) c.candidates c'.candidates := by
    refine paired.candidates.imp ?_
    intro m m' pair
    exact (ids m m' pair).symm
  have pairs : List.Forall₂ (· = ·) c.moduleIds c'.moduleIds :=
    List.forall₂_map_left_iff.mpr (List.forall₂_map_right_iff.mpr same)
  rw [List.forall₂_eq_eq_eq] at pairs
  exact pairs.symm

end Paired

open AuthModule (SameDecisions)

theorem walk_of_sameDecisions {ms ms' : List (AuthModule ω)}
    (alike : List.Forall₂ SameDecisions ms ms') (s : Strategy) (service : Subject) (place : Nat) :
    walk s service place ms' = walk s service place ms := by
  induction alike generalizing place with
  | nil => rfl
  | cons alike _ ih => simp only [walk, alike.validation, ih]

variable {c c' : Chain ω} (alike : c.Paired SameDecisions c')

include alike

theorem validate_of_sameDecisions (service : Subject) :
    c'.validate service = c.validate service := by
  have walks := walk_of_sameDecisions alike.candidates c.strategy service 0
  unfold validate
  rw [alike.strategy, walks]

theorem secureSession_of_sameDecisions (service : Subject) (place : Nat) (v : Option Verdict) :
    c'.secureSession service place v = c.secureSession service place v := by
  have session := alike.session
  unfold secureSession
  rw [alike.strategy]
  generalize c.session = o at session
  generalize c'.session = o' at session
  cases session with
  | none => rfl
  | some alike => simp only [alike.securing]

theorem secure_of_sameDecisions (service : Subject) : c'.secure service = c.secure service := by
  unfold secure
  congr 1
  funext p
  cases p.vouchedBy with
  | none => rfl
  | some place =>
    have candidate := alike.candidate place
    dsimp only
    generalize c.candidates[place]? = o at candidate
    generalize c'.candidates[place]? = o' at candidate
    cases candidate with
    | none => rfl
    | some found => simp only [found.securing, secureSession_of_sameDecisions alike]

end Chain

end Gatekeeper
