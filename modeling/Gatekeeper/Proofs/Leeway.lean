import Gatekeeper.Gate.Run
import Gatekeeper.Proofs.InStep

namespace Gatekeeper

open Audit (Trail)

variable {ω κ ρ : Type}

/-- The same but for the trails, which may differ as far as `trails` lets them. -/
structure Exchange.EqUpToTrail (trails : Trail → Trail → Prop) (x x' : Exchange) : Prop where
  draft : x'.toDraft = x.toDraft
  id : x'.id = x.id
  trail : trails x.trail x'.trail

section

variable (subjects : Subject → Subject → Prop) (trails : Trail → Trail → Prop)

/-- Subjects and trails may differ as far as these let them. -/
inductive Call.EqUpTo : Call → Call → Prop
  | validate {x x' client client' service service'} (exchange : Exchange.EqUpToTrail trails x x')
      (clients : subjects client client') (services : subjects service service') :
      EqUpTo (.validate x client service) (.validate x' client' service')
  | secure {x x' service service'} (exchange : Exchange.EqUpToTrail trails x x')
      (services : subjects service service') : EqUpTo (.secure x service) (.secure x' service')
  | clean {x x' client client'} (exchange : Exchange.EqUpToTrail trails x x')
      (clients : subjects client client') : EqUpTo (.clean x client) (.clean x' client')

/-- The same happens in both runs before they are audited. -/
inductive Event.EqUpTo (attributes : Attributes → Attributes → Prop) (place : Nat → Nat) :
    Event → Event → Prop
  | logged (r) : EqUpTo attributes place (.logged r) (.logged r)
  | called {call call'} (n moduleId) (alike : Call.EqUpTo subjects trails call call') :
      EqUpTo attributes place (.called n moduleId call) (.called (place n) moduleId call')
  | validating {x x' client client' service service'} (exchange : Exchange.EqUpToTrail trails x x')
      (clients : subjects client client') (services : subjects service service') :
      EqUpTo attributes place (.validating x client service) (.validating x' client' service')
  | dispatched {a a'} (alike : attributes a a') (request) :
      EqUpTo attributes place (.dispatched a request) (.dispatched a' request)
  | securing {x x' service service'} (exchange : Exchange.EqUpToTrail trails x x')
      (services : subjects service service') :
      EqUpTo attributes place (.securing x service) (.securing x' service')
  | refused {x x'} (exchange : Exchange.EqUpToTrail trails x x') (e) :
      EqUpTo attributes place (.refused x e) (.refused x' e)
  | cleaning {x x' client client'} (exchange : Exchange.EqUpToTrail trails x x')
      (clients : subjects client client') :
      EqUpTo attributes place (.cleaning x client) (.cleaning x' client')

end

/-- What may differ in two runs, and what is noted of each. A module at a place in the first run is
at `place` of it in the second. -/
structure Leeway (ω : Type) where
  memory : ω → ω → Prop
  subjects : Subject → Subject → Prop
  attributes : Attributes → Attributes → Prop
  trails : Trail → Trail → Prop
  place : Nat → Nat
  watch : Watch Event Event
  grows : ∀ {t t'} (notes : Trail), trails t t' → trails (t ++ notes) (t' ++ notes)
  names : ∀ {s s'}, subjects s s' → s'.firstName? = s.firstName?
  shows : ∀ {e e'}, Event.EqUpTo subjects trails attributes place e e' →
    watch.first e = watch.second e'

theorem Leeway.noted (l : Leeway ω) {e e' : Event}
    (alike : e.EqUpTo l.subjects l.trails l.attributes l.place e') :
    [e].filterMap l.watch.first = [e'].filterMap l.watch.second := by
  rw [List.filterMap_cons, List.filterMap_cons, l.shows alike]
  rfl

/-- Memories may differ as far as `like` lets them. -/
structure Custody.EqUpToMemory (like : ω → ω → Prop) (h h' : Custody ω) : Prop where
  client : h'.client = h.client
  memory : like h.memory h'.memory

structure Custody.EqUpTo (subjects : Subject → Subject → Prop) (like : ω → ω → Prop)
    (h h' : Custody ω) : Prop where
  client : subjects h.client h'.client
  memory : like h.memory h'.memory

structure Proceeding.EqUpTo (l : Leeway ω) (p p' : Proceeding ω) : Prop where
  custody : p.toCustody.EqUpTo l.subjects l.memory p'.toCustody
  exchange : p.exchange.EqUpToTrail l.trails p'.exchange
  vouchedBy : p'.vouchedBy = p.vouchedBy.map l.place

structure Scene.EqUpTo (l : Leeway ω) (s s' : Scene ω) : Prop where
  proceeding : s.toProceeding.EqUpTo l s'.toProceeding
  attributes : l.attributes s.attributes s'.attributes
  principal : s'.principal = s.principal

theorem Exchange.EqUpToTrail.revise {l : Leeway ω} {x x' : Exchange}
    (alike : x.EqUpToTrail l.trails x') {draft draft' : Draft} {notes notes' : Trail}
    (drafts : draft' = draft) (noted : notes' = notes) :
    (x.revise draft notes).EqUpToTrail l.trails (x'.revise draft' notes') where
  draft := drafts
  id := alike.id
  trail := by
    rw [revise_trail, revise_trail, noted]
    exact l.grows notes alike.trail

/-- With any other draft, if it is the same in both. -/
theorem Exchange.EqUpToTrail.redraft {trails : Trail → Trail → Prop} {x x' : Exchange}
    (alike : x.EqUpToTrail trails x') (edit : Draft → Draft) :
    Exchange.EqUpToTrail trails { x with toDraft := edit x.toDraft }
      { x' with toDraft := edit x'.toDraft } where
  draft := congrArg edit alike.draft
  id := alike.id
  trail := alike.trail

theorem Proceeding.EqUpTo.redraft {l : Leeway ω} {p p' : Proceeding ω} (near : p.EqUpTo l p')
    (edit : Draft → Draft) :
    Proceeding.EqUpTo l
      { p with exchange := { p.exchange with toDraft := edit p.exchange.toDraft } }
      { p' with exchange := { p'.exchange with toDraft := edit p'.exchange.toDraft } } where
  custody := near.custody
  exchange := near.exchange.redraft edit
  vouchedBy := near.vouchedBy

theorem Proceeding.EqUpTo.remember {l : Leeway ω} {p p' : Proceeding ω} (near : p.EqUpTo l p')
    {w w' : ω} (memory : l.memory w w') :
    Proceeding.EqUpTo l { p with memory := w } { p' with memory := w' } where
  custody := ⟨near.custody.client, memory⟩
  exchange := near.exchange
  vouchedBy := near.vouchedBy

/-- The two visits settle alike and leave the same of the exchange. -/
structure Visit.EqUpToKept (like : κ → κ → Prop) (v v' : Visit κ ρ) : Prop where
  result : v'.result = v.result
  draft : v'.draft = v.draft
  notes : v'.notes = v.notes
  kept : like v.kept v'.kept

/-- The two work the same way, whatever the trail and the memory that they are not to go by. -/
structure Phases.EqUpToTrail (trails : Trail → Trail → Prop) (like : ω → ω → Prop)
    (p p' : Phases ω) : Prop where
  validate : ∀ service {x x' h h'}, Exchange.EqUpToTrail trails x x' →
    Custody.EqUpToMemory like h h' →
    Visit.EqUpToKept (Custody.EqUpToMemory like) (p.validate service x h)
      (p'.validate service x' h')
  secure : ∀ service {x x' w w'}, Exchange.EqUpToTrail trails x x' → like w w' →
    Visit.EqUpToKept like (p.secure service x w) (p'.secure service x' w')
  clean : ∀ {x x' h h'}, Exchange.EqUpToTrail trails x x' → Custody.EqUpToMemory like h h' →
    Visit.EqUpToKept (Custody.EqUpToMemory like) (p.clean x h) (p'.clean x' h')

/-- The two work the same way, and to subjects that may differ they do the same. -/
structure Phases.EqUpTo (subjects : Subject → Subject → Prop) (trails : Trail → Trail → Prop)
    (like : ω → ω → Prop) (p p' : Phases ω) : Prop where
  validate : ∀ {s s' x x' h h'}, subjects s s' → Exchange.EqUpToTrail trails x x' →
    h.EqUpTo subjects like h' →
    Visit.EqUpToKept (Custody.EqUpTo subjects like) (p.validate s x h) (p'.validate s' x' h')
  secure : ∀ {s s' x x' w w'}, subjects s s' → Exchange.EqUpToTrail trails x x' → like w w' →
    Visit.EqUpToKept like (p.secure s x w) (p'.secure s' x' w')
  clean : ∀ {x x' h h'}, Exchange.EqUpToTrail trails x x' → h.EqUpTo subjects like h' →
    Visit.EqUpToKept (Custody.EqUpTo subjects like) (p.clean x h) (p'.clean x' h')

theorem Visit.EqUpToKept.imp {like like' : κ → κ → Prop} {v v' : Visit κ ρ}
    (near : v.EqUpToKept like v') (imp : like v.kept v'.kept → like' v.kept v'.kept) :
    v.EqUpToKept like' v' where
  result := near.result
  draft := near.draft
  notes := near.notes
  kept := imp near.kept

theorem Custody.EqUpTo.of_eqUpToMemory {like : ω → ω → Prop} {h h' : Custody ω}
    (held : h.EqUpToMemory like h') : h.EqUpTo (fun s s' => s' = s) like h' :=
  ⟨held.client, held.memory⟩

theorem Custody.EqUpTo.eqUpToMemory {like : ω → ω → Prop} {h h' : Custody ω}
    (held : h.EqUpTo (fun s s' => s' = s) like h') : h.EqUpToMemory like h' :=
  ⟨held.client, held.memory⟩

/-- Where subjects are the same there is nothing more to ask of the modules. -/
theorem Phases.EqUpToTrail.eqUpTo {trails : Trail → Trail → Prop} {like : ω → ω → Prop}
    {p p' : Phases ω} (near : p.EqUpToTrail trails like p') :
    p.EqUpTo (fun s s' => s' = s) trails like p' where
  validate {service _ _ _ _ _} same alike held := by
    have visit := near.validate service alike held.eqUpToMemory
    rw [same]
    exact visit.imp Custody.EqUpTo.of_eqUpToMemory
  secure same alike memory := by
    rw [same]
    exact near.secure _ alike memory
  clean alike held := by
    have visit := near.clean alike held.eqUpToMemory
    exact visit.imp Custody.EqUpTo.of_eqUpToMemory

structure AuthModule.EqUpTo (l : Leeway ω) (m m' : AuthModule ω) : Prop where
  id : m'.id = m.id
  phases : m.toPhases.EqUpTo l.subjects l.trails l.memory m'.toPhases

/-- The two answer the same, whatever the trail and the memory that they are not to go by. -/
structure Responder.EqUpToTrail (trails : Trail → Trail → Prop) (like : ω → ω → Prop)
    (r r' : Responder ω) : Prop where
  answer : ∀ {x x'} e {w w'}, Exchange.EqUpToTrail trails x x' → like w w' →
    (r'.respond x' e w').1 = (r.respond x e w).1
  memory : ∀ {x x'} e {w w'}, Exchange.EqUpToTrail trails x x' → like w w' →
    like (r.respond x e w).2 (r'.respond x' e w').2

structure Caller.EqUpToAttributes (attributes : Attributes → Attributes → Prop)
    (like : ω → ω → Prop) (c c' : Caller ω) : Prop where
  attributes : attributes c.attributes c'.attributes
  memory : like c.memory c'.memory

/-- The two answer the same to callers that may differ, and these differ no more after it. -/
structure Resource.EqUpToAttributes (attributes : Attributes → Attributes → Prop)
    (like : ω → ω → Prop) (r r' : Resource ω) : Prop where
  answer : ∀ request {c c'}, Caller.EqUpToAttributes attributes like c c' →
    (r'.handle request c').1 = (r.handle request c).1
  caller : ∀ request {c c'}, Caller.EqUpToAttributes attributes like c c' →
    Caller.EqUpToAttributes attributes like (r.handle request c).2 (r'.handle request c').2

end Gatekeeper
