import Gatekeeper.Chain.Phases
import Gatekeeper.Proofs.Act

namespace Gatekeeper

variable {ω α β : Type}

/-- A call of a collaborator: of a module at its place, of the resource, of the responder or of
the sink. -/
inductive Contact where
  | validate (place : Nat) (moduleId : String)
  | dispatch
  | secure (place : Nat) (moduleId : String)
  | refuse
  | clean (place : Nat) (moduleId : String)
  | audit

namespace Contact

/-- The same call of all the modules, that stand one after the other from a place on. -/
def each (call : Nat → String → Contact) (place : Nat) (ms : List (AuthModule ω)) : List Contact :=
  ms.mapIdx fun i m => call (place + i) m.id

def perhaps : Bool → Contact → List Contact
  | true, x => [x]
  | false, _ => []

end Contact

namespace Activity

def contact? : Activity → Option Contact
  | .called place id (.validate _ _ _) => some (.validate place id)
  | .called place id (.secure _ _) => some (.secure place id)
  | .called place id (.clean _ _) => some (.clean place id)
  | .logged _ => none

def contacts (journal : List Activity) : List Contact := journal.filterMap contact?

@[simp] theorem contacts_append (i j : List Activity) :
    contacts (i ++ j) = contacts i ++ contacts j :=
  List.filterMap_append

/-- What comes after an act adds no calls when it makes none. -/
theorem contacts_bind {x : Duty ω α} {f : α → Duty ω β}
    (quiet : ∀ a p, contacts (f a p).journal = []) (p : Proceeding ω) :
    contacts ((x >>= f) p).journal = contacts (x p).journal := by
  cases ending : (x p).ending with
  | halted k => rw [Act.bind_of_halted ending]
  | settled a =>
    have rest := quiet a (x p).state
    rw [Act.settled_bind ending, Run.after_journal, contacts_append, rest, List.append_nil]

end Activity

open Activity (contacts contacts_append contacts_bind)

namespace AuthModule

variable (m : AuthModule ω) (place : Nat) (p : Proceeding ω)

/-- To decide is to visit, and no other call. -/
theorem contacts_decide (phase : Phase) (visit : Duty ω Answer) :
    contacts (m.decide phase visit p).journal = contacts (visit p).journal := by
  have noting (a : Answer) (q : Proceeding ω) :
      contacts ((do noteDecision m.id phase a; return a : Duty ω Answer) q).journal = [] := rfl
  unfold AuthModule.decide
  rw [contacts_bind noting, Act.guarded_apply]

end AuthModule

namespace Chain

theorem secureSession_contacts (c : Chain ω) (service : Subject) (place : Nat)
    (v : Option Verdict) (p : Proceeding ω) :
    contacts (c.secureSession service place v p).journal = [] ∨
    ∃ session, c.candidates[0]? = some session ∧
      contacts (c.secureSession service place v p).journal = [.secure 0 session.id] := by
  unfold secureSession
  cases held : c.session with
  | none => exact .inl rfl
  | some session =>
    by_cases secures : place ≠ 0 ∧ c.strategy.sessionSecuresAfter v = true
    · have stands : c.candidates[0]? = some session := by simp [candidates, held]
      have second : contacts (session.decideSecuring 0 service p).journal =
          [.secure 0 session.id] :=
        session.contacts_decide p .secureResponse (session.secureAt 0 service)
      refine .inr ⟨session, stands, ?_⟩
      simp only [secures, ne_eq, not_false_eq_true, and_self, if_true]
      exact second
    · left
      simp only [secures, if_false]
      rfl

/-- Securing calls two candidates at most. -/
theorem contacts_secure (c : Chain ω) (service : Subject) (p : Proceeding ω) :
    ∃ secured : List (Nat × AuthModule ω), secured.length ≤ 2 ∧
      (∀ x ∈ secured, c.candidates[x.1]? = some x.2) ∧
      contacts (c.secure service p).journal = secured.map fun x => .secure x.1 x.2.id := by
  unfold secure
  rw [Act.get_bind]
  cases p.vouchedBy with
  | none => exact ⟨[], by simp, by simp, rfl⟩
  | some place =>
    cases found : c.candidates[place]? with
    | none => exact ⟨[], by simp, by simp, by simp only [found]; rfl⟩
    | some m =>
      have first : contacts (m.decideSecuring place service p).journal = [.secure place m.id] :=
        m.contacts_decide p .secureResponse (m.secureAt place service)
      have stands : ∀ x ∈ [(place, m)], c.candidates[x.1]? = some x.2 := by simp [found]
      simp only [found]
      cases h : (m.decideSecuring place service p).ending with
      | halted k =>
        refine ⟨[(place, m)], by simp, stands, ?_⟩
        rw [Act.bind_of_halted h]
        exact first
      | settled a =>
        rw [Act.settled_bind h, Run.after_journal, contacts_append, first]
        cases a with
        | error e => exact ⟨[(place, m)], by simp, stands, rfl⟩
        | ok v =>
          rcases c.secureSession_contacts service place v (m.decideSecuring place service p).state
            with none | ⟨session, stands', second⟩
          · refine ⟨[(place, m)], by simp, stands, ?_⟩
            rw [none]
            rfl
          · refine ⟨[(place, m), (0, session)], by simp, by simp [found, stands'], ?_⟩
            rw [second]
            rfl

end Chain

end Gatekeeper
