import Gatekeeper.Assembly.Plan
import Gatekeeper.Proofs.Act

namespace Gatekeeper

variable {ω : Type}

namespace BuildEvent

def setUp? : BuildEvent → Option (String × Setup)
  | settingUp moduleId setup => some (moduleId, setup)
  | logged _ => none

/-- The modules that are set up, each with what it is given. -/
def setUps (journal : List BuildEvent) : List (String × Setup) := journal.filterMap setUp?

@[simp] theorem setUps_append (i j : List BuildEvent) : setUps (i ++ j) = setUps i ++ setUps j :=
  List.filterMap_append

theorem setUps_after {σ α : Type} (j : List BuildEvent) {r : Run σ BuildEvent α}
    (quiet : setUps r.journal = []) : setUps (r.after j).journal = setUps j := by
  rw [Run.after_journal, setUps_append, quiet, List.append_nil]

end BuildEvent

open BuildEvent (setUps)

namespace Configured

variable {c : Configured ω} {w left : ω}

/-- The module takes HTTP requests as well as HTTP responses. -/
def TakesHttp (c : Configured ω) : Prop :=
  .request ∈ c.blueprint.messageTypes ∧ .response ∈ c.blueprint.messageTypes

theorem supportsHttp_iff : c.blueprint.supportsHttp = true ↔ c.TakesHttp := by
  simp [Blueprint.supportsHttp, MessageType.http, TakesHttp]

/-- What becomes of a module that has been set up. -/
def equipped (c : Configured ω) (phases : Phases ω) : AuthModule ω := { phases with id := c.id }

theorem setUp_of_unsupported (lacks : ¬ c.TakesHttp) :
    c.setUp w = { ending := .settled (.error (.unsupportedMessages c.id)), state := w } := by
  unfold setUp
  rw [if_neg (by rwa [supportsHttp_iff])]
  rfl

theorem setUp_of_accepted {phases : Phases ω} (takes : c.TakesHttp)
    (accepts : c.blueprint.setUp c.setup w = (.ok (.ok phases), left)) :
    c.setUp w =
      { ending := .settled (.ok (c.equipped phases))
        state := left
        journal := [.settingUp c.id c.setup, .logged (readyRecord c.id)] } := by
  unfold setUp
  rw [if_pos (supportsHttp_iff.mpr takes), Act.emit_bind, Act.bind_apply, Act.prompt, accepts]
  rfl

theorem setUp_of_rejected {cause : AuthError} (takes : c.TakesHttp)
    (rejects : c.blueprint.setUp c.setup w = (.ok (.error cause), left)) :
    c.setUp w =
      { ending := .settled (.error (.rejected c.id cause))
        state := left
        journal := [.settingUp c.id c.setup] } := by
  unfold setUp
  rw [if_pos (supportsHttp_iff.mpr takes), Act.emit_bind, Act.bind_apply, Act.prompt, rejects]
  rfl

theorem setUp_of_crashed {crash : Crash} (takes : c.TakesHttp)
    (crashes : c.blueprint.setUp c.setup w = (.error crash, left)) :
    c.setUp w =
      { ending := .halted (.crashed crash)
        state := left
        journal := [.settingUp c.id c.setup] } := by
  unfold setUp
  rw [if_pos (supportsHttp_iff.mpr takes), Act.emit_bind, Act.bind_apply, Act.prompt, crashes]
  rfl

end Configured

/-- All of these can be used when they are set up in turn, and these modules come of them. -/
inductive Fit : List (Configured ω) → ω → List (AuthModule ω) → ω → Prop
  | nil (w) : Fit [] w [] w
  | cons {c cs w phases w' ms left} (takes : c.TakesHttp)
      (accepts : c.blueprint.setUp c.setup w = (.ok (.ok phases), w')) (rest : Fit cs w' ms left) :
      Fit (c :: cs) w (c.equipped phases :: ms) left

/-- Of all these, those that are set up, and how that ends: all of them if they can be used, and
otherwise those up to the first that cannot. That one is not set up if it lacks a message type. -/
inductive Tries : List (Configured ω) → ω → List (Configured ω) →
    Ending (Except BuildError (List (AuthModule ω))) → ω → Prop
  | fit {all w ms left} (fit : Fit all w ms left) : Tries all w all (.settled (.ok ms)) left
  | unsupported {before c after w ms left} (fit : Fit before w ms left) (lacks : ¬ c.TakesHttp) :
      Tries (before ++ c :: after) w before (.settled (.error (.unsupportedMessages c.id))) left
  | rejected {before c after w ms w' cause left} (fit : Fit before w ms w') (takes : c.TakesHttp)
      (rejects : c.blueprint.setUp c.setup w' = (.ok (.error cause), left)) :
      Tries (before ++ c :: after) w (before ++ [c]) (.settled (.error (.rejected c.id cause))) left
  | crashed {before c after w ms w' crash left} (fit : Fit before w ms w') (takes : c.TakesHttp)
      (crashes : c.blueprint.setUp c.setup w' = (.error crash, left)) :
      Tries (before ++ c :: after) w (before ++ [c]) (.halted (.crashed crash)) left

theorem Tries.cons {c : Configured ω} {cs tried : List (Configured ω)} {w w' left : ω}
    {phases : Phases ω} {ending : Ending (Except BuildError (List (AuthModule ω)))}
    (takes : c.TakesHttp) (accepts : c.blueprint.setUp c.setup w = (.ok (.ok phases), w'))
    (rest : Tries cs w' tried ending left) :
    Tries (c :: cs) w (c :: tried) (ending.map (Except.map (c.equipped phases :: ·))) left := by
  cases rest with
  | fit fit => exact .fit (.cons takes accepts fit)
  | unsupported fit lacks => exact .unsupported (.cons takes accepts fit) lacks
  | rejected fit takes' rejects => exact .rejected (.cons takes accepts fit) takes' rejects
  | crashed fit takes' crashes => exact .crashed (.cons takes accepts fit) takes' crashes

theorem Tries.fits {all tried : List (Configured ω)} {w left : ω} {ms : List (AuthModule ω)}
    (tries : Tries all w tried (.settled (.ok ms)) left) : tried = all ∧ Fit all w ms left := by
  cases tries with
  | fit fit => exact ⟨rfl, fit⟩

namespace Plan

theorem setUpAll_cons_of_accepted {c : Configured ω} {w : ω} {m : AuthModule ω}
    (accepted : (c.setUp w).ending = .settled (.ok m)) (cs : List (Configured ω)) :
    let rest := setUpAll cs (c.setUp w).state
    setUpAll (c :: cs) w =
      { ending := rest.ending.map (Except.map (m :: ·))
        state := rest.state
        journal := (c.setUp w).journal ++ rest.journal } := by
  intro rest
  rw [setUpAll, Act.settled_bind accepted]
  dsimp only
  cases ending : rest.ending with
  | halted k =>
    rw [Act.bind_of_halted ending]
    rfl
  | settled a =>
    rw [Act.settled_bind ending]
    cases a with
    | error e => simp [Run.after, Ending.map, Except.map, rest]
    | ok ms => simp [Run.after, Ending.map, Except.map, rest]

theorem setUpAll_tries (cs : List (Configured ω)) (w : ω) :
    ∃ tried, Tries cs w tried (setUpAll cs w).ending (setUpAll cs w).state ∧
      setUps (setUpAll cs w).journal = tried.map fun c => (c.id, c.setup) := by
  induction cs generalizing w with
  | nil => exact ⟨[], .fit (.nil w), rfl⟩
  | cons c cs ih =>
    by_cases takes : c.TakesHttp
    · match result : c.blueprint.setUp c.setup w with
      | (.ok (.ok phases), w') =>
        have first := Configured.setUp_of_accepted takes result
        have whole := setUpAll_cons_of_accepted (congrArg Run.ending first) cs
        obtain ⟨tried, tries, told⟩ := ih w'
        rw [first] at whole
        rw [whole]
        refine ⟨c :: tried, tries.cons takes result, ?_⟩
        rw [BuildEvent.setUps_append, told]
        rfl
      | (.ok (.error cause), w') =>
        have first := Configured.setUp_of_rejected takes result
        have ended := congrArg Run.ending first
        rw [setUpAll, Act.settled_bind ended, first]
        exact ⟨[] ++ [c], .rejected (.nil w) takes result, rfl⟩
      | (.error crash, w') =>
        have first := Configured.setUp_of_crashed takes result
        have ended := congrArg Run.ending first
        rw [setUpAll, Act.bind_of_halted ended, first]
        exact ⟨[] ++ [c], .crashed (.nil w) takes result, rfl⟩
    · have first := Configured.setUp_of_unsupported (w := w) takes
      have ended := congrArg Run.ending first
      rw [setUpAll, Act.settled_bind ended, first]
      exact ⟨[], .unsupported (.nil w) takes, rfl⟩

theorem setUpAll_of_fit {cs : List (Configured ω)} {w left : ω} {ms : List (AuthModule ω)}
    (fit : Fit cs w ms left) : (setUpAll cs w).ending = .settled (.ok ms) := by
  induction fit with
  | nil => rfl
  | @cons c cs _ _ _ _ _ takes accepts _ ih =>
    have first := Configured.setUp_of_accepted takes accepts
    have whole := setUpAll_cons_of_accepted (congrArg Run.ending first) cs
    rw [first] at whole
    rw [whole]
    dsimp only
    rw [ih]
    rfl

variable (plan : Plan ω)

/-- What is to be set up, in the order in which it is done. -/
def configured : List (Configured ω) := plan.session.toList ++ plan.modules

/-- The chain of the modules that come of a plan. -/
def arrange (ms : List (AuthModule ω)) : Chain ω :=
  if plan.session.isSome then
    { session := ms.head?, modules := ms.tail, strategy := plan.strategy }
  else { modules := ms, strategy := plan.strategy }

theorem setUpChain_eq :
    plan.setUpChain = (setUpAll plan.configured >>= fun a => pure (a.map plan.arrange)) := by
  unfold setUpChain configured arrange
  cases plan.session with
  | none =>
    rw [setUpSession, pure_bind]
    apply bind_congr
    intro a
    cases a <;> rfl
  | some c =>
    rw [setUpSession, Option.toList_some, List.singleton_append, setUpAll, bind_assoc, bind_assoc]
    apply bind_congr
    intro a
    cases a with
    | error e => rfl
    | ok m =>
      rw [pure_bind]
      dsimp only
      rw [bind_assoc]
      apply bind_congr
      intro b
      cases b <;> rfl

/-- The gate in front of a chain that comes of a plan. -/
def gateOver (sink : Audit.Sink ω) (c : Chain ω) : Gate ω :=
  { logger := plan.logger
    sink
    responder := plan.responder
    authenticator := c.toAuthenticator
    service := plan.service }

theorem build_of_audited {sink : Audit.Sink ω} (audited : plan.sink = some sink) (w : ω) :
    let r := setUpAll plan.configured w
    (plan.build w).ending =
        r.ending.map (Except.map fun ms => plan.gateOver sink (plan.arrange ms)) ∧
      (plan.build w).state = r.state ∧
      setUps (plan.build w).journal = setUps r.journal := by
  intro r
  unfold build
  rw [audited]
  dsimp only
  rw [setUpChain_eq, bind_assoc]
  cases ending : r.ending with
  | halted k =>
    rw [Act.bind_of_halted ending]
    exact ⟨rfl, rfl, rfl⟩
  | settled a =>
    rw [Act.settled_bind ending, pure_bind]
    cases a with
    | error e => exact ⟨rfl, rfl, BuildEvent.setUps_after _ rfl⟩
    | ok ms => exact ⟨rfl, rfl, BuildEvent.setUps_after _ rfl⟩

variable {plan} in
theorem arrange_candidates {w left : ω} {ms : List (AuthModule ω)}
    (fit : Fit plan.configured w ms left) :
    (plan.arrange ms).candidates = ms ∧
      (plan.arrange ms).session.isSome = plan.session.isSome ∧
      (plan.arrange ms).strategy = plan.strategy := by
  unfold configured at fit
  unfold arrange
  cases given : plan.session with
  | none => exact ⟨rfl, rfl, rfl⟩
  | some c =>
    rw [given] at fit
    cases fit with
    | cons => exact ⟨rfl, rfl, rfl⟩

/-- What comes of building, and the modules that are set up for it, of which there are none if there
is no sink. -/
inductive Builds (memory : ω) :
    List (Configured ω) → Ending (Except BuildError (Gate ω)) → ω → Prop
  | unaudited (unaudited : plan.sink = none) :
      Builds memory [] (.settled (.error (.illegalState "AuditApi has not been set"))) memory
  | refused {sink tried e left} (audited : plan.sink = some sink)
      (tries : Tries plan.configured memory tried (.settled (.error e)) left) :
      Builds memory tried (.settled (.error e)) left
  | halted {sink tried h left} (audited : plan.sink = some sink)
      (tries : Tries plan.configured memory tried (.halted h) left) :
      Builds memory tried (.halted h) left
  | assembled {sink ms left} {c : Chain ω} (audited : plan.sink = some sink)
      (fit : Fit plan.configured memory ms left) (candidates : c.candidates = ms)
      (session : c.session.isSome = plan.session.isSome) (strategy : c.strategy = plan.strategy) :
      Builds memory plan.configured (.settled (.ok (plan.gateOver sink c))) left

variable {plan} in
theorem builds_of_tries {sink : Audit.Sink ω} {memory left : ω} {tried : List (Configured ω)}
    {ending : Ending (Except BuildError (List (AuthModule ω)))} (audited : plan.sink = some sink)
    (tries : Tries plan.configured memory tried ending left) :
    plan.Builds memory tried
      (ending.map (Except.map fun ms => plan.gateOver sink (plan.arrange ms))) left := by
  match ending with
  | .halted h => exact .halted audited tries
  | .settled (.error e) => exact .refused audited tries
  | .settled (.ok ms) =>
    obtain ⟨rfl, fit⟩ := tries.fits
    obtain ⟨candidates, session, strategy⟩ := arrange_candidates fit
    exact .assembled audited fit candidates session strategy

theorem build_of_unaudited (unaudited : plan.sink = none) (memory : ω) :
    plan.build memory =
      { ending := .settled (.error (.illegalState "AuditApi has not been set"))
        state := memory } := by
  unfold build
  rw [unaudited]
  rfl

theorem build_builds (memory : ω) :
    ∃ tried, plan.Builds memory tried (plan.build memory).ending (plan.build memory).state ∧
      setUps (plan.build memory).journal = tried.map fun c => (c.id, c.setup) := by
  cases given : plan.sink with
  | none =>
    rw [plan.build_of_unaudited given]
    exact ⟨[], .unaudited given, rfl⟩
  | some sink =>
    obtain ⟨tried, tries, told⟩ := setUpAll_tries plan.configured memory
    obtain ⟨ending, state, journal⟩ := plan.build_of_audited given memory
    rw [ending, state, journal]
    exact ⟨tried, builds_of_tries given tries, told⟩

variable {plan} in
theorem Builds.fits {memory left : ω} {tried : List (Configured ω)} {g : Gate ω}
    (builds : plan.Builds memory tried (.settled (.ok g)) left) :
    plan.sink.isSome ∧ ∃ ms, Fit plan.configured memory ms left := by
  cases builds with
  | assembled audited fit =>
    have given : plan.sink.isSome := Option.isSome_of_eq_some audited
    exact ⟨given, _, fit⟩

end Plan

/-- Building succeeds just if there is a sink and every module can be used on what those before it
have left. The modules are set up in turn, each once and with a setup of its own, up to the first
that cannot be used; this one is what the error tells of. The gate asks these modules in this order
and by the strategy of the plan. -/
theorem Plan.build_all_or_nothing (plan : Plan ω) (memory : ω) :
    ((∃ g, (plan.build memory).ending = .settled (.ok g)) ↔
      plan.sink.isSome ∧ ∃ ms left, Fit plan.configured memory ms left) ∧
    ∃ tried, plan.Builds memory tried (plan.build memory).ending (plan.build memory).state ∧
      setUps (plan.build memory).journal = tried.map fun c => (c.id, c.setup) := by
  refine ⟨⟨?_, ?_⟩, plan.build_builds memory⟩
  · intro succeeds
    obtain ⟨g, built⟩ := succeeds
    obtain ⟨tried, builds, -⟩ := plan.build_builds memory
    rw [built] at builds
    obtain ⟨audited, ms, fit⟩ := builds.fits
    exact ⟨audited, ms, _, fit⟩
  · intro usable
    obtain ⟨audited, ms, left, fit⟩ := usable
    obtain ⟨sink, given⟩ := Option.isSome_iff_exists.mp audited
    obtain ⟨ending, -, -⟩ := plan.build_of_audited given memory
    rw [Plan.setUpAll_of_fit fit] at ending
    exact ⟨_, ending⟩

end Gatekeeper
