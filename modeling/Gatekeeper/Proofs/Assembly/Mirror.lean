import Gatekeeper.Assembly.Plan
import Gatekeeper.Module.Blocking
import Gatekeeper.Proofs.Gate.Principal
import Gatekeeper.Proofs.Gate.Blur

namespace Gatekeeper

open Http (Request Response)

variable {ω κ ρ ρ' φ : Type} {like : ω → ω → Prop}

namespace BlockingModule

/-- The answers of a blocking module and of its mirror. A fault shows as an error that names module
and fault, leaves the status open and has the fault for its source. -/
inductive Mirrors (b : BlockingModule ω φ) (same : ρ → ρ' → Prop) :
    Except Crash (Except φ ρ) → Except Crash (Except AuthError ρ') → Prop
  | answer {a a'} (h : same a a') : Mirrors b same (.ok (.ok a)) (.ok (.ok a'))
  | fault (e) :
      Mirrors b same (.ok (.error e))
        (.ok (.error
          { message := "module '" ++ b.id ++ "' failed: " ++ b.fault.text e
            statusHint := none
            causes := b.fault.text e :: b.fault.causes e }))
  | crash (c) : Mirrors b same (.error c) (.error c)

/-- The two leave the same behind, and the mirror does not wait. -/
structure MirrorsVisit (b : BlockingModule ω φ) (like : κ → κ → Prop)
    (v : Visit κ (Except Crash (Except φ ρ))) (v' : Visit κ (Ending (Except AuthError ρ))) :
    Prop where
  result : ∃ answer, b.Mirrors Eq v.result answer ∧ v'.result = .ofExcept answer
  draft : v'.draft = v.draft
  notes : v'.notes = v.notes
  kept : like v.kept v'.kept

structure MirrorsPhases (b : BlockingModule ω φ) (like : ω → ω → Prop) (p : BlockingPhases ω φ)
    (p' : Phases ω) : Prop where
  validate : ∀ service x {h h'}, Custody.EqUpToMemory like h h' →
    b.MirrorsVisit (Custody.EqUpToMemory like) (p.validate service x h) (p'.validate service x h')
  secure : ∀ service x {w w'}, like w w' →
    b.MirrorsVisit like (p.secure service x w) (p'.secure service x w')
  clean : ∀ x {h h'}, Custody.EqUpToMemory like h h' →
    b.MirrorsVisit (Custody.EqUpToMemory like) (p.clean x h) (p'.clean x h')

/-- The mirror goes by the same name, takes the same messages, and does what the module does, from
its setting up on. The two may keep their memory in different ways. -/
structure MirroredBy (b : BlockingModule ω φ) (like : ω → ω → Prop) (m : Blueprint ω) : Prop where
  id : m.id = b.id
  messageTypes : m.messageTypes = b.messageTypes
  setUp : ∀ setup {w w'}, like w w' →
    b.Mirrors (b.MirrorsPhases like) (b.setUp setup w).1 (m.setUp setup w').1
  memory : ∀ setup {w w'}, like w w' → like (b.setUp setup w).2 (m.setUp setup w').2

end BlockingModule

/-- The two set up the same way, and the modules they make work the same way. -/
structure Blueprint.EqUpToMemory (like : ω → ω → Prop) (m m' : Blueprint ω) : Prop where
  id : m'.id = m.id
  messageTypes : m'.messageTypes = m.messageTypes
  setUp : ∀ setup {w w'}, like w w' →
    Concur (Concur (Phases.EqUpToTrail Eq like)) (m.setUp setup w).1 (m'.setUp setup w').1
  memory : ∀ setup {w w'}, like w w' → like (m.setUp setup w).2 (m'.setUp setup w').2

namespace BlockingModule

variable {b : BlockingModule ω φ}

theorem Mirrors.ofExcept {r : Except Crash (Except φ ρ)}
    {answer : Except Crash (Except AuthError ρ)} (mirrors : b.Mirrors Eq r answer) :
    Ending.ofExcept answer = b.answer r := by
  cases mirrors with
  | answer same =>
    rw [same]
    rfl
  | fault e => rfl
  | crash c => rfl

theorem MirrorsVisit.adapted {like : κ → κ → Prop} {v : Visit κ (Except Crash (Except φ ρ))}
    {v' : Visit κ (Ending (Except AuthError ρ))} (mirrors : b.MirrorsVisit like v v') :
    Visit.EqUpToKept like (v.map b.answer) v' where
  result := by
    obtain ⟨answer, read, settled⟩ := mirrors.result
    exact settled.trans read.ofExcept
  draft := mirrors.draft
  notes := mirrors.notes
  kept := mirrors.kept

theorem MirrorsPhases.adapted {p : BlockingPhases ω φ} {p' : Phases ω}
    (mirrors : b.MirrorsPhases like p p') : Phases.EqUpToTrail Eq like (b.adapt p) p' where
  validate service x _ _ _ same held := by
    have visit := mirrors.validate service x held
    rw [same.eq]
    exact visit.adapted
  secure service x _ _ _ same memory := by
    have visit := mirrors.secure service x memory
    rw [same.eq]
    exact visit.adapted
  clean {x _ _ _} same held := by
    have visit := mirrors.clean x held
    rw [same.eq]
    exact visit.adapted

/-- What a mirror does is what the blocking module does as a blueprint. -/
theorem MirroredBy.eqUpToMemory {m : Blueprint ω} (mirrored : b.MirroredBy like m) :
    Blueprint.EqUpToMemory like b.toBlueprint m where
  id := mirrored.id
  messageTypes := mirrored.messageTypes
  setUp setup w w' memories := by
    have mirrors := mirrored.setUp setup memories
    change Concur _ ((b.setUp setup w).1.map fun a => (a.mapError b.convert).map b.adapt) _
    generalize (b.setUp setup w).1 = r at mirrors ⊢
    generalize (m.setUp setup w').1 = r' at mirrors ⊢
    cases mirrors with
    | answer h => exact .ok (.ok h.adapted)
    | fault e => exact .ok (.error _)
    | crash c => exact .error c
  memory setup _ _ := mirrored.memory setup

end BlockingModule

inductive Configured.Swapped (like : ω → ω → Prop) : Configured ω → Configured ω → Prop
  | kept {m} (setup) (near : Blueprint.EqUpToMemory like m m) : Swapped like ⟨m, setup⟩ ⟨m, setup⟩
  | replaced {φ : Type} {b : BlockingModule ω φ} {m} (setup) (mirrored : b.MirroredBy like m) :
      Swapped like ⟨b.toBlueprint, setup⟩ ⟨m, setup⟩

/-- The second plan is the first, but for mirrors. No other collaborator goes by what `like` leaves
open. -/
structure Plan.Swapped (like : ω → ω → Prop) (plan plan' : Plan ω) : Prop where
  rest : plan' = { plan with session := plan'.session, modules := plan'.modules }
  session : Option.Rel (Configured.Swapped like) plan.session plan'.session
  modules : List.Forall₂ (Configured.Swapped like) plan.modules plan'.modules
  responder : Responder.EqUpToTrail Eq like plan.responder plan.responder
  sink : ∀ sink ∈ plan.sink, Audit.Sink.EqUpToMemory like sink sink

/-- The two work the same way and keep their memory in different ways. -/
abbrev AuthModule.EqUpToMemory (like : ω → ω → Prop) : AuthModule ω → AuthModule ω → Prop :=
  AuthModule.EqUpTo (.strict .sharp like)

abbrev Build.InStep {α α' : Type} (like : ω → ω → Prop) (same : α → α' → Prop) (x : Build ω α)
    (x' : Build ω α') : Prop :=
  Act.InStep (⟨some, some⟩ : Watch BuildEvent BuildEvent) like same x x'

theorem Configured.setUp_inStep {m m' : Blueprint ω} (near : Blueprint.EqUpToMemory like m m')
    (setup : Setup) :
    Build.InStep like (Concur (AuthModule.EqUpToMemory like)) (Configured.setUp ⟨m, setup⟩)
      (Configured.setUp ⟨m', setup⟩) := by
  have supports : m'.supportsHttp = m.supportsHttp := by
    rw [Blueprint.supportsHttp, Blueprint.supportsHttp, near.messageTypes]
  unfold Configured.setUp Configured.id
  dsimp only
  rw [supports, near.id]
  split
  · have prompted : Build.InStep like (Concur (Phases.EqUpToTrail Eq like))
        (Act.prompt (m.setUp setup)) (Act.prompt (m'.setUp setup)) :=
      .prompt (fun _ _ memories => near.setUp setup memories)
        fun _ _ memories => near.memory setup memories
    refine .seq (.emit rfl) (prompted.bind ?_)
    intro made made' concur
    cases concur with
    | ok near => exact .seq (.emit rfl) (.pure (.ok ⟨rfl, near.eqUpTo⟩))
    | error cause => exact .pure (.error _)
  · exact .pure (.error _)

theorem Configured.Swapped.inStep {c c' : Configured ω} (swapped : c.Swapped like c') :
    Build.InStep like (Concur (AuthModule.EqUpToMemory like)) c.setUp c'.setUp := by
  cases swapped with
  | kept setup near => exact setUp_inStep near setup
  | replaced setup mirrored => exact setUp_inStep mirrored.eqUpToMemory setup

namespace Plan

theorem setUpSession_inStep {o o' : Option (Configured ω)}
    (swapped : Option.Rel (Configured.Swapped like) o o') :
    Build.InStep like (Concur (Option.Rel (AuthModule.EqUpToMemory like))) (setUpSession o)
      (setUpSession o') := by
  cases swapped with
  | none => exact .pure (.ok .none)
  | some swapped =>
    refine swapped.inStep.bind ?_
    intro made made' concur
    cases concur with
    | ok near => exact .pure (.ok (.some near))
    | error e => exact .pure (.error e)

theorem setUpAll_inStep {cs cs' : List (Configured ω)}
    (swapped : List.Forall₂ (Configured.Swapped like) cs cs') :
    Build.InStep like (Concur (List.Forall₂ (AuthModule.EqUpToMemory like))) (setUpAll cs)
      (setUpAll cs') := by
  induction swapped with
  | nil => exact .pure (.ok .nil)
  | cons swapped _ ih =>
    refine swapped.inStep.bind ?_
    intro made made' concur
    cases concur with
    | error e => exact .pure (.error e)
    | ok near =>
      refine ih.bind ?_
      intro others others' concur
      cases concur with
      | ok others => exact .pure (.ok (.cons near others))
      | error e => exact .pure (.error e)

variable {plan plan' : Plan ω} (swapped : plan.Swapped like plan')

include swapped

theorem setUpChain_inStep :
    Build.InStep like (Concur (Chain.Paired (AuthModule.EqUpToMemory like))) plan.setUpChain
      plan'.setUpChain := by
  have strategy : plan'.strategy = plan.strategy := by rw [swapped.rest]
  unfold setUpChain
  rw [strategy]
  refine (setUpSession_inStep swapped.session).bind ?_
  intro session session' concur
  cases concur with
  | error e => exact .pure (.error e)
  | ok session =>
    refine (setUpAll_inStep swapped.modules).bind ?_
    intro modules modules' concur
    cases concur with
    | error e => exact .pure (.error e)
    | ok modules => exact .pure (.ok ⟨session, modules, rfl⟩)

theorem build_inStep :
    Build.InStep like (Concur (Gate.EqUpToBlur .sharp like)) plan.build plan'.build := by
  have sink : plan'.sink = plan.sink := by rw [swapped.rest]
  have logger : plan'.logger = plan.logger := by rw [swapped.rest]
  have responder : plan'.responder = plan.responder := by rw [swapped.rest]
  have service : plan'.service = plan.service := by rw [swapped.rest]
  unfold build
  rw [sink, logger, responder, service]
  cases given : plan.sink with
  | none => exact .pure (.error _)
  | some sink =>
    refine (setUpChain_inStep swapped).bind ?_
    intro chain chain' concur
    cases concur with
    | error e => exact .pure (.error e)
    | @ok c c' paired =>
      have ids : c'.moduleIds = c.moduleIds := paired.moduleIds fun _ _ near => near.id
      let g : Gate ω :=
        { logger := plan.logger
          sink
          responder := plan.responder
          authenticator := c.toAuthenticator
          service := plan.service }
      have gates : Gate.EqUpToBlur .sharp like g { g with authenticator := c'.toAuthenticator } :=
        paired.eqUpToBlur (g := g) rfl swapped.responder (swapped.sink sink given)
      dsimp only
      rw [ids]
      exact .seq (.emit rfl) (.pure (.ok gates))

end Plan

/-- A request, with the resource it is for. Its caller takes up the attributes that the last request
left, in whatever way. -/
structure Errand (ω : Type) where
  fresh : String
  request : Request
  resource : Resource ω
  context : Attributes → Attributes

/-- All that is seen of one run. -/
structure Sight where
  ending : Ending Response
  attributes : Attributes
  journal : List Event

def Gate.serve (g : Gate ω) : List (Errand ω) → Caller ω → List Sight
  | [], _ => []
  | e :: rest, c =>
    let r := g.process e.fresh e.resource e.request { c with attributes := e.context c.attributes }
    ⟨r.ending, r.state.attributes, r.journal⟩ :: g.serve rest r.state

/-- Builds a plan and serves requests with what it gives. -/
def Plan.serve (plan : Plan ω) (errands : List (Errand ω)) (memory : ω) :
    List BuildEvent × Ending (Except BuildError (List Sight)) :=
  let r := plan.build memory
  (r.journal, r.ending.map (·.map fun g => g.serve errands ⟨{}, r.state⟩))

theorem Gate.EqUpToBlur.serve_eq {g g' : Gate ω} (near : g.EqUpToBlur .sharp like g')
    {errands : List (Errand ω)}
    (resources : ∀ e ∈ errands, Resource.EqUpToAttributes Eq like e.resource e.resource)
    {c c' : Caller ω} (callers : Caller.EqUpToAttributes Eq like c c') :
    g'.serve errands c' = g.serve errands c := by
  induction errands generalizing c c' with
  | nil => rfl
  | cons e rest ih =>
    obtain ⟨here, later⟩ := List.forall_mem_cons.mp resources
    have start : Caller.EqUpToAttributes Eq like { c with attributes := e.context c.attributes }
        { c' with attributes := e.context c'.attributes } :=
      ⟨congrArg e.context callers.attributes, callers.memory⟩
    obtain ⟨ending, state, journal⟩ := near.process_inStep here e.fresh e.request start
    have served := ih later state
    rw [Event.blur_sharp, List.map_id, List.map_id] at journal
    unfold serve
    dsimp only
    rw [ending, ← state.attributes, journal, served]

/-- A plan in which mirrors have taken the place of blocking modules builds the same, or fails to
for the same reason, and serves every request as before: with the same calls and log records, the
same attributes and the same end. -/
theorem Plan.serve_of_swapped {plan plan' : Plan ω} (swapped : plan.Swapped like plan')
    {memory memory' : ω} (memories : like memory memory') (errands : List (Errand ω))
    (resources : ∀ e ∈ errands, Resource.EqUpToAttributes Eq like e.resource e.resource) :
    plan'.serve errands memory' = plan.serve errands memory := by
  obtain ⟨ending, state, journal⟩ := build_inStep swapped memory memory' memories
  simp only [List.filterMap_some] at journal
  unfold serve
  dsimp only
  rw [← journal]
  refine congrArg (Prod.mk _) ?_
  generalize (plan.build memory).ending = e at ending
  generalize (plan'.build memory').ending = e' at ending
  cases ending with
  | halted h => rfl
  | settled concur =>
    cases concur with
    | error e => rfl
    | ok near =>
      have callers : Caller.EqUpToAttributes Eq like ⟨{}, (plan.build memory).state⟩
          ⟨{}, (plan'.build memory').state⟩ := ⟨rfl, state⟩
      have served := near.serve_eq resources callers
      exact congrArg (fun sights => Ending.settled (Except.ok sights)) served

theorem Blueprint.eqUpTo_self (m : Blueprint ω) : Blueprint.EqUpToMemory Eq m m where
  id := rfl
  messageTypes := rfl
  setUp setup w _ same := by
    rw [← same]
    match (m.setUp setup w).1 with
    | .ok (.ok phases) => exact .ok (.ok phases.eqUpTo_self)
    | .ok (.error cause) => exact .ok (.error cause)
    | .error c => exact .error c
  memory _ _ _ same := by rw [same]

/-- A directory that cannot be reached fails the request with the same error in both ways. -/
theorem Plan.serve_of_swapped_of_fault :
    let phases : BlockingPhases Audit.Ledger Unit :=
      { validate := fun _ x held => { result := .ok (.error ()), draft := x.toDraft, kept := held }
        secure := fun _ x memory =>
          { result := .ok (.ok (some .sendSuccess)), draft := x.toDraft, kept := memory }
        clean := fun x held => { result := .ok (.ok ()), draft := x.toDraft, kept := held } }
    let blocking : BlockingModule Audit.Ledger Unit :=
      { id := "directory"
        messageTypes := MessageType.http
        fault := ⟨fun _ => "unreachable", fun _ => []⟩
        setUp := fun _ w => (.ok (.ok phases), w) }
    let mirror : Blueprint Audit.Ledger :=
      { id := "directory"
        setUp := fun _ w =>
          (.ok (.ok
            { validate := fun _ x held =>
                { result := .settled (.error
                    { message := "module 'directory' failed: unreachable"
                      causes := ["unreachable"] })
                  draft := x.toDraft
                  kept := held }
              secure := fun _ x memory =>
                { result := .settled (.ok (some .sendSuccess)), draft := x.toDraft, kept := memory }
              clean := fun x held =>
                { result := .settled (.ok ()), draft := x.toDraft, kept := held } }), w) }
    let other : Configured Audit.Ledger :=
      ⟨{ id := "admitting", setUp := fun _ w => (.ok (.ok (Gate.admitting "alice").toPhases), w) },
        {}⟩
    let plan : Plan Audit.Ledger :=
      { sink := some .recording, modules := [⟨blocking.toBlueprint, {}⟩, other] }
    let plan' : Plan Audit.Ledger := { plan with modules := [⟨mirror, {}⟩, other] }
    let errand : Errand Audit.Ledger := ⟨"1", {}, ⟨fun _ c => (.settled {}, c)⟩, id⟩
    plan.Swapped Eq plan' ∧ plan'.serve [errand] {} = plan.serve [errand] {} := by
  intro phases blocking mirror other plan plan' errand
  have mirrored : blocking.MirroredBy Eq mirror := by
    constructor
    case id => rfl
    case messageTypes => rfl
    case setUp =>
      intro setup w w' same
      apply BlockingModule.Mirrors.answer
      constructor
      case validate =>
        intro service x h h' held
        exact ⟨⟨_, .fault (), rfl⟩, rfl, rfl, held⟩
      case secure =>
        intro service x w w' memory
        exact ⟨⟨_, .answer rfl, rfl⟩, rfl, rfl, memory⟩
      case clean =>
        intro x h h' held
        exact ⟨⟨_, .answer rfl, rfl⟩, rfl, rfl, held⟩
    case memory =>
      intro setup w w' same
      exact same
  have swapped : plan.Swapped Eq plan' := by
    constructor
    case rest => rfl
    case session => exact .none
    case modules =>
      have kept : Configured.Swapped Eq other other := .kept {} other.blueprint.eqUpTo_self
      exact .cons (.replaced {} mirrored) (.cons kept .nil)
    case responder => exact Responder.eqUpTo_self _
    case sink =>
      intro sink _
      exact sink.eqUpTo_self
  refine ⟨swapped, Plan.serve_of_swapped swapped rfl [errand] ?_⟩
  intro e _
  exact e.resource.eqUpTo_self

end Gatekeeper
