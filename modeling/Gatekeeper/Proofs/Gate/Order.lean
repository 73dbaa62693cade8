import Gatekeeper.Proofs.Chain.Calls
import Gatekeeper.Proofs.Gate.Dispatch

namespace Gatekeeper

open Http (Request Response)

variable {ω α : Type}

namespace Event

def contact? : Event → Option Contact
  | .called place id call => Activity.contact? (.called place id call)
  | .dispatched _ _ => some .dispatch
  | .refused _ _ => some .refuse
  | .audited _ => some .audit
  | _ => none

def contacts (journal : List Event) : List Contact := journal.filterMap contact?

@[simp] theorem contacts_append (i j : List Event) :
    contacts (i ++ j) = contacts i ++ contacts j :=
  List.filterMap_append

theorem contacts_calls (journal : List Event) : contacts (calls journal) = contacts journal := by
  rw [contacts, calls, List.filterMap_filter, contacts]
  congr 1
  funext e
  cases e <;> rfl

theorem contacts_map_ofActivity (journal : List Activity) :
    contacts (journal.map ofActivity) = Activity.contacts journal := by
  rw [contacts, List.filterMap_map, Activity.contacts]
  congr 1
  funext a
  cases a <;> rfl

end Event

namespace Contact

def stage : Contact → Nat
  | .validate _ _ => 0
  | .dispatch => 1
  | .secure _ _ => 2
  | .refuse => 3
  | .clean _ _ => 4
  | .audit => 5

/-- No call comes after one of a later stage, and none is of a stage after the `n`th. -/
structure OrderedUpTo (n : Nat) (calls : List Contact) : Prop where
  ordered : calls.Pairwise fun a b => a.stage ≤ b.stage
  bounded : ∀ a ∈ calls, a.stage ≤ n

theorem OrderedUpTo.append {m n : Nat} {i j : List Contact} (h : OrderedUpTo m i) (later : m ≤ n)
    (all : ∀ b ∈ j, b.stage = n) : OrderedUpTo n (i ++ j) where
  ordered := by
    have level : j.Pairwise fun a b => a.stage ≤ b.stage := by
      apply List.pairwise_of_forall_mem_list
      intro a ha b hb
      exact Nat.le_of_eq ((all a ha).trans (all b hb).symm)
    refine List.pairwise_append.mpr ⟨h.ordered, level, ?_⟩
    intro a ha b hb
    rw [all b hb]
    exact Nat.le_trans (h.bounded a ha) later
  bounded := by
    intro a ha
    rcases List.mem_append.mp ha with earlier | last
    · exact Nat.le_trans (h.bounded a earlier) later
    · exact Nat.le_of_eq (all a last)

theorem stage_of_mem_each (call : Nat → String → Contact) {n : Nat}
    (all : ∀ place id, (call place id).stage = n) (place : Nat) (ms : List (AuthModule ω)) :
    ∀ x ∈ each call place ms, x.stage = n := by
  intro x h
  obtain ⟨i, hi, rfl⟩ := List.mem_mapIdx.mp h
  exact all _ _

theorem stage_of_mem_perhaps (b : Bool) (y : Contact) : ∀ x ∈ perhaps b y, x.stage = y.stage := by
  intro x h
  cases b with
  | true => rw [List.mem_singleton.mp h]
  | false => cases h

end Contact

/-- The calls of a run before cleaning. -/
structure Passage (c : Chain ω) where
  asked : List (AuthModule ω)
  dispatches : Bool
  secured : List (Nat × AuthModule ω)
  refuses : Bool
  asked_in_order : asked <+: c.candidates
  secured_at_most_twice : secured.length ≤ 2
  secured_candidates : ∀ x ∈ secured, c.candidates[x.1]? = some x.2
  secured_after_dispatch : secured ≠ [] → dispatches = true

namespace Passage

variable {c : Chain ω}

def contacts (i : Passage c) : List Contact :=
  Contact.each .validate 0 i.asked ++ Contact.perhaps i.dispatches .dispatch ++
    i.secured.map (fun x => .secure x.1 x.2.id) ++ Contact.perhaps i.refuses .refuse

/-- A passage stops where the run does. -/
structure Follows (i : Passage c) (g : Gate ω) (resource : Resource ω) (s : Scene ω) : Prop where
  dispatches : i.dispatches = true ↔ g.Authenticates s
  answered : i.secured ≠ [] → ∃ response, (g.served resource s).1 = .settled response
  unvalidated : ∀ h, (g.validate s).ending = .halted h →
    i.dispatches = false ∧ i.secured = [] ∧ i.refuses = false
  unanswered : ∀ h, g.Authenticates s → (g.served resource s).1 = .halted h →
    i.secured = [] ∧ i.refuses = false
  unsecured : ∀ response h, g.Authenticates s → (g.served resource s).1 = .settled response →
    (g.secure (g.answered resource s response)).ending = .halted h → i.refuses = false

def undispatched (asked : List (AuthModule ω)) (order : asked <+: c.candidates) (refuses : Bool) :
    Passage c where
  asked
  dispatches := false
  secured := []
  refuses
  asked_in_order := order
  secured_at_most_twice := by simp
  secured_candidates := by simp
  secured_after_dispatch := by simp

theorem Follows.undispatched {asked : List (AuthModule ω)} (order : asked <+: c.candidates)
    {refuses : Bool} {g : Gate ω} {s : Scene ω} (resource : Resource ω)
    (denied : ¬ g.Authenticates s)
    (settles : refuses = true → ∃ a, (g.validate s).ending = .settled a) :
    (Passage.undispatched asked order refuses).Follows g resource s where
  dispatches := by simp [Passage.undispatched, denied]
  answered := by simp [Passage.undispatched]
  unvalidated h halted := by
    refine ⟨rfl, rfl, ?_⟩
    cases answered : refuses with
    | false => rfl
    | true =>
      obtain ⟨a, settled⟩ := settles answered
      rw [settled] at halted
      cases halted
  unanswered h success := (denied success).elim
  unsecured response h success := (denied success).elim

end Passage

/-- The calls of a run. -/
structure Itinerary (c : Chain ω) extends Passage c where
  cleaned : List (AuthModule ω)
  cleaned_in_order : cleaned <+: c.candidates

def Itinerary.contacts {c : Chain ω} (i : Itinerary c) : List Contact :=
  i.toPassage.contacts ++ Contact.each .clean 0 i.cleaned ++ [.audit]

theorem Itinerary.ordered {c : Chain ω} (i : Itinerary c) :
    i.contacts.Pairwise fun a b => a.stage ≤ b.stage := by
  -- Stage by stage, since each part of the itinerary is of one stage only.
  have none : Contact.OrderedUpTo 0 [] := ⟨.nil, by simp⟩
  have validated := none.append (Nat.le_refl 0)
    (Contact.stage_of_mem_each .validate (fun _ _ => rfl) 0 i.asked)
  have dispatched := validated.append (n := 1) (by decide)
    (Contact.stage_of_mem_perhaps i.dispatches .dispatch)
  have secures : ∀ x ∈ i.secured.map (fun x => Contact.secure x.1 x.2.id), x.stage = 2 := by
    intro x h
    obtain ⟨candidate, -, rfl⟩ := List.mem_map.mp h
    rfl
  have secured := dispatched.append (by decide) secures
  have refused := secured.append (n := 3) (by decide)
    (Contact.stage_of_mem_perhaps i.refuses .refuse)
  have cleaned := refused.append (n := 4) (by decide)
    (Contact.stage_of_mem_each .clean (fun _ _ => rfl) 0 i.cleaned)
  have audited := cleaned.append (n := 5) (j := [.audit]) (by decide) (by simp [Contact.stage])
  exact audited.ordered

namespace Gate

variable (g : Gate ω) (c : Chain ω) (resource : Resource ω)

theorem perform_contacts {event : Scene ω → Event} (d : Duty ω (Except AuthError α)) {s : Scene ω}
    (marker : (event s).contact? = none) :
    Event.contacts (perform event d s).journal =
      Activity.contacts (d s.toProceeding).journal := by
  rw [perform_apply, Event.contacts, List.filterMap_cons, marker]
  exact Event.contacts_map_ofActivity _

theorem secure_contacts (s : Scene ω) :
    ∃ secured : List (Nat × AuthModule ω), secured.length ≤ 2 ∧
      (∀ x ∈ secured, c.candidates[x.1]? = some x.2) ∧
      Event.contacts ((g.fronting c).secure s).journal =
        secured.map fun x => .secure x.1 x.2.id := by
  obtain ⟨secured, twice, stand, calls⟩ := c.contacts_secure g.service s.toProceeding
  refine ⟨secured, twice, stand, ?_⟩
  rw [secure, perform_contacts _ rfl]
  exact calls

theorem refuse_contacts (e : AuthError) (s : Scene ω) :
    Event.contacts (g.refuse e s).journal = [.refuse] := by
  rw [refuse_apply]
  rfl

section

variable {g c resource}
variable {s final : Scene ω} {calls : List Event} {ending : Ending Settlement}

theorem Securing.contacts (securing : (g.fronting c).Securing s calls ending final) :
    ∃ (secured : List (Nat × AuthModule ω)) (refuses : Bool), secured.length ≤ 2 ∧
      (∀ x ∈ secured, c.candidates[x.1]? = some x.2) ∧
      Event.contacts calls = secured.map (fun x => .secure x.1 x.2.id) ++
        Contact.perhaps refuses .refuse ∧
      ∀ h, ((g.fronting c).secure s).ending = .halted h → refuses = false := by
  obtain ⟨secured, twice, stand, secures⟩ := g.secure_contacts c s
  rw [← Event.contacts_calls] at secures
  have unrefused : Event.contacts (Event.calls ((g.fronting c).secure s).journal) =
      secured.map (fun x => .secure x.1 x.2.id) ++ Contact.perhaps false .refuse := by
    rw [secures, Contact.perhaps, List.append_nil]
  cases securing with
  | unsettled => exact ⟨secured, false, twice, stand, unrefused, fun _ _ => rfl⟩
  | delivered => exact ⟨secured, false, twice, stand, unrefused, fun _ _ => rfl⟩
  | withheld => exact ⟨secured, false, twice, stand, unrefused, fun _ _ => rfl⟩
  | refused settled =>
    refine ⟨secured, true, twice, stand, ?_, ?_⟩
    · rw [Event.contacts_append, secures, refuse_contacts]
      rfl
    · intro h halted
      rw [settled] at halted
      cases halted

end

end Gate

end Gatekeeper
