import Gatekeeper.Proofs.Chain.InStep
import Gatekeeper.Proofs.Chain.Paired
import Gatekeeper.Proofs.Chain.Walk
import Gatekeeper.Proofs.Gate.Course

namespace Gatekeeper

open Audit (Trail)

variable {ω ρ : Type} {like : ω → ω → Prop}

namespace Chain

/-- The chain with one more module, at a position among the modules. -/
def insert (c : Chain ω) (i : Nat) (d : AuthModule ω) : Chain ω :=
  { c with modules := c.modules.take i ++ d :: c.modules.drop i }

/-- The candidates that are asked before the module at a position. -/
def before (c : Chain ω) (i : Nat) : List (AuthModule ω) := c.session.toList ++ c.modules.take i

variable (c : Chain ω) (i : Nat) (d : AuthModule ω)

theorem candidates_eq : c.candidates = c.before i ++ c.modules.drop i := by
  rw [before, List.append_assoc, List.take_append_drop]
  rfl

theorem candidates_insert : (c.insert i d).candidates = c.before i ++ d :: c.modules.drop i := by
  rw [before, List.append_assoc]
  rfl

end Chain

def Exchange.untold (x : Exchange) : Exchange := { x with trail := [] }

def Call.untold : Call → Call
  | validate x client service => validate x.untold client service
  | secure x service => secure x.untold service
  | clean x client => clean x.untold client

namespace Event

/-- A call as it looks to those who read no trail and do not look into the chain that attributes
name. The places of the modules are renamed. -/
def glimpse (place : Nat → Nat) : Event → Option Event
  | opened _ | logged _ => none
  | called n moduleId call => some (called (place n) moduleId call.untold)
  | validating x client service => some (validating x.untold client service)
  | dispatched a request =>
    some (dispatched { a with authContext := a.authContext.map fun _ => [] } request)
  | securing x service => some (securing x.untold service)
  | refused x e => some (refused x.untold e)
  | cleaning x client => some (cleaning x.untold client)
  | audited e => some (audited { e with entries := [] })

/-- The module at this place validates or cleans. -/
def isAside (k : Nat) : Event → Bool
  | called n _ (.validate _ _ _) | called n _ (.clean _ _) => n = k
  | _ => false

end Event

/-- Where a module stands once another has been put in at `k`. -/
def shifted (k n : Nat) : Nat := if n < k then n else n + 1

theorem shifted_ne (k n : Nat) : shifted k n ≠ k := by
  unfold shifted
  split <;> omega

theorem shifted_of_lt {k n : Nat} (h : n < k) : shifted k n = n := if_pos h

theorem shifted_add (k n : Nat) : shifted k (k + n) = k + 1 + n := by
  unfold shifted
  split <;> omega

/-- The same attributes, but that where the ones name the first chain, the others may name the
second. -/
structure Attributes.EqUpToChain (ids ids' : List String) (a a' : Attributes) : Prop where
  requestId : a'.requestId = a.requestId
  principal : a'.principal = a.principal
  published : a'.published = a.published
  authContext : a'.authContext = a.authContext ∨
    a.authContext = some ids ∧ a'.authContext = some ids'

theorem Attributes.EqUpToChain.isAuthenticated {ids ids' : List String} {a a' : Attributes}
    (alike : a.EqUpToChain ids ids' a') : (a'.authContext.map fun _ => ([] : List String)) =
      a.authContext.map fun _ => [] := by
  rcases alike.authContext with same | ⟨first, second⟩
  · rw [same]
  · rw [first, second]
    rfl

/-- The second trail is the first with `extra` put in after `front`. -/
def Audit.Trail.Extends (front extra t t' : Trail) : Prop :=
  ∃ back, t = front ++ back ∧ t' = front ++ extra ++ back

theorem Exchange.EqUpToTrail.untold {trails : Trail → Trail → Prop} {x x' : Exchange}
    (alike : x.EqUpToTrail trails x') : x'.untold = x.untold := by
  simp only [Exchange.untold, alike.draft, alike.id]

theorem Call.EqUpTo.untold {trails : Trail → Trail → Prop} {call call' : Call}
    (alike : call.EqUpTo (fun s s' => s' = s) trails call') : call'.untold = call.untold := by
  cases alike with
  | validate exchange clients services =>
    rw [clients, services]
    exact congrArg (Call.validate · _ _) exchange.untold
  | secure exchange services =>
    rw [services]
    exact congrArg (Call.secure · _) exchange.untold
  | clean exchange clients =>
    rw [clients]
    exact congrArg (Call.clean · _) exchange.untold

/-- The leeway of two runs at two chains, of which the second has one more module, at `k`. The
trails differ in what this module adds. -/
def Leeway.beside (like : ω → ω → Prop) (ids ids' : List String) (k : Nat) (front extra : Trail) :
    Leeway ω where
  memory := like
  subjects s s' := s' = s
  attributes := Attributes.EqUpToChain ids ids'
  trails := Trail.Extends front extra
  place := shifted k
  watch :=
    { first := Event.glimpse (shifted k)
      second := fun e => if !e.isAside k then e.glimpse id else none }
  grows notes trails := by
    obtain ⟨back, rfl, rfl⟩ := trails
    exact ⟨back ++ notes, by simp, by simp⟩
  names same := congrArg Subject.firstName? same
  shows alike := by
    cases alike with
    | logged r => rfl
    | called n moduleId alike =>
      have aside (call : Call) : (Event.called (shifted k n) moduleId call).isAside k = false := by
        cases call <;> simp [Event.isAside, shifted_ne]
      simp [aside, Event.glimpse, alike.untold]
    | dispatched alike request =>
      simp [Event.isAside, Event.glimpse, alike.requestId, alike.principal, alike.published,
        alike.isAuthenticated]
    | refused exchange => simp [Event.isAside, Event.glimpse, exchange.untold]
    | validating exchange clients services =>
      simp [Event.isAside, Event.glimpse, exchange.untold, clients, services]
    | securing exchange same | cleaning exchange same =>
      simp [Event.isAside, Event.glimpse, exchange.untold, same]

/-- The module does not read the trail, nor what `like` leaves open of the memory. -/
def AuthModule.Overlooks (like : ω → ω → Prop) (m : AuthModule ω) : Prop :=
  Phases.EqUpToTrail (fun _ _ => True) like m.toPhases m.toPhases

theorem Exchange.EqUpToTrail.any {trails : Trail → Trail → Prop} {x x' : Exchange}
    (alike : x.EqUpToTrail trails x') : x.EqUpToTrail (fun _ _ => True) x' :=
  ⟨alike.draft, alike.id, trivial⟩

theorem AuthModule.Overlooks.beside {m : AuthModule ω} (overlooks : m.Overlooks like)
    (ids ids' : List String) (k : Nat) (front extra : Trail) :
    m.EqUpTo (.beside like ids ids' k front extra) m := by
  have phases := Phases.EqUpToTrail.eqUpTo overlooks
  exact
    { id := rfl
      phases :=
        { validate := fun services alike => phases.validate services alike.any
          secure := fun services alike => phases.secure services alike.any
          clean := fun alike => phases.clean alike.any } }

/-- The visit changes nothing but what `like` leaves open of the memory. -/
structure Visit.Idle (like : ω → ω → Prop) (x : Exchange) (held : Custody ω)
    (v : Visit (Custody ω) ρ) : Prop where
  draft : v.draft = x.toDraft
  notes : v.notes = []
  client : v.kept.client = held.client
  memory : ∀ w, like w held.memory → like w v.kept.memory

/-- Asked about `q`, the module settles on a verdict that the strategy passes over. -/
def AuthModule.Defers (like : ω → ω → Prop) (s : Strategy) (service : Subject) (q : Proceeding ω)
    (d : AuthModule ω) : Prop :=
  ∃ v, (d.opinion service q).result = .settled (.ok v) ∧ s.fallsThrough v = true ∧
    (d.opinion service q).Idle like q.exchange q.toCustody

/-- The module at `k` adds an entry to the trail that it is asked with, or it is not asked. -/
inductive Passed (k : Nat) (d : AuthModule ω) (service : Subject) (journal : List Event) :
    Trail → Trail → Prop
  | unreached : Passed k d service journal [] []
  | deferred {x client} (v) (asked : .called k d.id (.validate x client service) ∈ journal) :
      Passed k d service journal x.trail [⟨d.id, .validateRequest, .settled v⟩]

theorem Passed.mono {k : Nat} {d : AuthModule ω} {service : Subject} {j journal : List Event}
    {front extra : Trail} (passed : Passed k d service j front extra) (part : j ⊆ journal) :
    Passed k d service journal front extra := by
  cases passed with
  | unreached => exact .unreached
  | deferred v asked => exact .deferred v (part asked)

/-- The longer trail has at most one entry more, which is of this module and where it was asked. -/
theorem Passed.entries {k : Nat} {d : AuthModule ω} {service : Subject} {journal : List Event}
    {front extra t t' : Trail} (passed : Passed k d service journal front extra)
    (longer : Trail.Extends front extra t t') :
    t' = t ∨ ∃ x client v back, .called k d.id (.validate x client service) ∈ journal ∧
      t = x.trail ++ back ∧ t' = x.trail ++ ⟨d.id, .validateRequest, .settled v⟩ :: back := by
  obtain ⟨back, trail, trail'⟩ := longer
  cases passed with
  | unreached => exact .inl (trail'.trans trail.symm)
  | @deferred x client v asked =>
    refine .inr ⟨x, client, v, back, asked, trail, ?_⟩
    rw [trail', List.append_assoc, List.singleton_append]

namespace Chain

variable {s : Strategy} {service : Subject} {ids ids' : List String}

end Chain

theorem getElem?_shifted {α : Type} (before after : List α) (a : α) (n : Nat) :
    (before ++ a :: after)[shifted before.length n]? = (before ++ after)[n]? := by
  by_cases h : n < before.length
  · rw [shifted_of_lt h, List.getElem?_append_left h, List.getElem?_append_left h]
  · obtain ⟨m, rfl⟩ := Nat.exists_eq_add_of_le (Nat.le_of_not_lt h)
    rw [shifted_add, Nat.add_assoc, Nat.add_comm 1 m, List.getElem?_append_right (by omega),
      List.getElem?_append_right (by omega)]
    simp

theorem Chain.eqUpTo_insert {c : Chain ω} (overlook : ∀ m ∈ c.candidates, m.Overlooks like)
    (ids ids' : List String) (i : Nat) (d : AuthModule ω) (front extra : Trail) :
    c.PairedAt (shifted (c.before i).length)
      (AuthModule.EqUpTo (.beside like ids ids' (c.before i).length front extra))
      (c.insert i d) where
  strategy := rfl
  session := by
    apply Paired.rel_self
    intro m session
    have candidate : m ∈ c.candidates := List.mem_append_left _ (Option.mem_toList.mpr session)
    exact (overlook m candidate).beside ..
  candidate n := by
    have same : (c.insert i d).candidates[shifted (c.before i).length n]? = c.candidates[n]? := by
      rw [candidates_insert, candidates_eq c i]
      exact getElem?_shifted ..
    change Option.Rel _ _ (c.insert i d).candidates[shifted (c.before i).length n]?
    rw [same]
    apply Paired.rel_self
    intro m found
    exact (overlook m (List.mem_of_getElem? found)).beside ..
  first session n := by
    have behind : 0 < (c.before i).length := by
      obtain ⟨m, session⟩ := Option.isSome_iff_exists.mp session
      simp [before, session]
    change shifted (c.before i).length n = 0 ↔ n = 0
    unfold shifted
    split <;> omega

theorem Chain.secure_beside {c : Chain ω} (overlook : ∀ m ∈ c.candidates, m.Overlooks like)
    (ids ids' : List String) (i : Nat) (d : AuthModule ω) (front extra : Trail)
    (service : Subject) :
    Duty.InStep (.beside like ids ids' (c.before i).length front extra) Eq (c.secure service)
      ((c.insert i d).secure service) := by
  let l := Leeway.beside like ids ids' (c.before i).length front extra
  have near := eqUpTo_insert overlook ids ids' i d front extra
  have decide : c.PairedAt l.alignment.place (AuthModule.DecidesInStep l.alignment service service)
      (c.insert i d) := near.imp fun _ _ near => near.decidesInStep rfl
  exact secure_inStep decide

namespace AuthModule

variable {d : AuthModule ω} {p p' : Proceeding ω} {l : Leeway ω}

end AuthModule

namespace Chain

variable (ids ids' : List String) (front extra : Trail) {d : AuthModule ω}

end Chain

end Gatekeeper
