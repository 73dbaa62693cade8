import Gatekeeper.Assembly.Sketch
import Mathlib.Data.List.Induction

namespace Gatekeeper.Sketch

variable {ω : Type}

/-- The settings that calls are about. -/
inductive Setting where
  | logger
  | sink
  | service
  | responder
  | writers
  | session
  | modules
  | strategy
deriving DecidableEq

/-- What is given for a setting. -/
abbrev Setting.Value (ω : Type) : Setting → Type
  | .logger => Logger
  | .sink => Audit.Sink ω
  | .service => Subject
  | .responder => Responder ω
  | .writers => Writer
  | .session => Configured ω
  | .modules => Configured ω
  | .strategy => Strategy

/-- The calls that put a plan together. -/
inductive Stroke (ω : Type) where
  | named (name : String)
  | logger (l : Logger)
  | sink (sink : Audit.Sink ω)
  | service (service : Subject)
  | responder (r : Responder ω)
  | writer (w : Writer)
  | session (m : Configured ω)
  | authModule (m : Configured ω)
  | modules (ms : List (Configured ω))
  | strategy (strategy : Strategy)

namespace Stroke

def setting : Stroke ω → Setting
  | .named _ | .logger _ => .logger
  | .sink _ => .sink
  | .service _ => .service
  | .responder _ => .responder
  | .writer _ => .writers
  | .session _ => .session
  | .authModule _ | .modules _ => .modules
  | .strategy _ => .strategy

def draw (s : Sketch ω) : Stroke ω → Sketch ω
  | .named name => s.named name
  | .logger l => s.logger l
  | .sink a => s.sink a
  | .service subject => s.service subject
  | .responder r => s.responder r
  | .writer w => s.writer w
  | .session m => s.session m
  | .authModule m => s.authModule m
  | .modules ms => s.modules ms
  | .strategy rule => s.strategy rule

/-- The values that a call gives for a setting. -/
def gives : (k : Setting) → Stroke ω → List (k.Value ω)
  | .logger, .named name => [⟨name⟩]
  | .logger, .logger l => [l]
  | .sink, .sink a => [a]
  | .service, .service subject => [subject]
  | .responder, .responder r => [r]
  | .writers, .writer w => [w]
  | .session, .session m => [m]
  | .modules, .authModule m => [m]
  | .modules, .modules ms => ms
  | .strategy, .strategy rule => [rule]
  | _, _ => []

theorem gives_of_other {c : Stroke ω} {k : Setting} (other : c.setting ≠ k) : c.gives k = [] := by
  cases c <;> cases k <;> first | rfl | exact (other rfl).elim

end Stroke

/-- The sketch that comes of these calls, starting from nothing. -/
def drawn (strokes : List (Stroke ω)) : Sketch ω := strokes.foldl Stroke.draw {}

/-- All the values that are given for a setting, in the order of the calls. -/
def given (k : Setting) (strokes : List (Stroke ω)) : List (k.Value ω) :=
  strokes.flatMap (Stroke.gives k)

variable (strokes : List (Stroke ω))

theorem given_concat (k : Setting) (c : Stroke ω) :
    given k (strokes ++ [c]) = given k strokes ++ c.gives k := by
  unfold given
  rw [List.flatMap_append, List.flatMap_singleton]

theorem drawn_concat (c : Stroke ω) : drawn (strokes ++ [c]) = c.draw (drawn strokes) := by
  unfold drawn
  rw [List.foldl_append, List.foldl_cons, List.foldl_nil]

theorem drawn_eq :
    drawn strokes =
      { plan :=
          { logger := (given .logger strokes).getLast?.getD {}
            sink := (given .sink strokes).getLast?
            service := (given .service strokes).getLast?.getD {}
            session := (given .session strokes).getLast?
            modules := given .modules strokes
            strategy := (given .strategy strokes).getLast?.getD .firstMatch }
        responder? := (given .responder strokes).getLast?
        writers := given .writers strokes } := by
  induction strokes using List.reverseRecOn with
  | nil => rfl
  | append_singleton strokes c ih =>
    -- The last call gives one more value for its own setting and nothing for the others.
    rw [drawn_concat, ih]
    simp only [given_concat]
    cases c <;> simp only [Stroke.gives, List.append_nil, List.getLast?_concat] <;> rfl

/-- The same calls in another order, which is the old one for each of the settings. -/
def Rearranges (strokes strokes' : List (Stroke ω)) : Prop :=
  ∀ k, strokes.filter (·.setting = k) = strokes'.filter (·.setting = k)

theorem rearranges_swap {c d : Stroke ω} (apart : c.setting ≠ d.setting)
    (before after : List (Stroke ω)) :
    Rearranges (before ++ c :: d :: after) (before ++ d :: c :: after) := by
  intro k
  simp only [List.filter_append, List.filter_cons]
  by_cases first : c.setting = k
  · have second : d.setting ≠ k := by
      intro same
      exact apart (first.trans same.symm)
    simp [first, second]
  · simp [first]

theorem given_filter (k : Setting) :
    given k (strokes.filter (·.setting = k)) = given k strokes := by
  unfold given
  induction strokes with
  | nil => rfl
  | cons c strokes ih =>
    rw [List.filter_cons, List.flatMap_cons]
    by_cases here : c.setting = k
    · rw [if_pos (decide_eq_true here), List.flatMap_cons, ih]
    · have nothing : c.gives k = [] := Stroke.gives_of_other here
      rw [if_neg (by simpa using here), nothing, ih, List.nil_append]

variable {strokes} in
theorem Rearranges.drawn_eq {strokes' : List (Stroke ω)}
    (rearranges : Rearranges strokes strokes') : drawn strokes = drawn strokes' := by
  have same (k : Setting) : given k strokes = given k strokes' := by
    rw [← given_filter, rearranges k, given_filter]
  rw [Sketch.drawn_eq, Sketch.drawn_eq]
  simp only [same]

theorem negotiator_eq (s : Sketch ω) : s.negotiator = ⟨.json, s.writers⟩ := by
  have writers := Negotiator.writers_foldl_add {} s.writers
  obtain ⟨first, others⟩ := List.cons.inj writers
  exact congrArg₂ Negotiator.mk first others

/-- A plan has the last value that was given for each setting, or else the usual one, and all the
modules in the order of the calls. A responder that was given answers whatever writers were added;
without one the JSON writer answers, and after it all the writers in the order of the calls. That is
what is built, and calls that give different settings may change places. -/
theorem toPlan_drawn (strokes : List (Stroke ω)) :
    let plan : Plan ω :=
      { logger := (given .logger strokes).getLast?.getD ⟨"authn_filter"⟩
        sink := (given .sink strokes).getLast?
        service := (given .service strokes).getLast?.getD {}
        responder := (given .responder strokes).getLast?.getD
          (Negotiator.toResponder ⟨.json, given .writers strokes⟩)
        session := (given .session strokes).getLast?
        modules := given .modules strokes
        strategy := (given .strategy strokes).getLast?.getD .firstMatch }
    (drawn strokes).toPlan = plan ∧
    (drawn strokes).build = plan.build ∧
    (∀ before c d after, strokes = before ++ c :: d :: after → c.setting ≠ d.setting →
      drawn (before ++ d :: c :: after) = drawn strokes) ∧
    ∀ strokes', Rearranges strokes strokes' → drawn strokes' = drawn strokes := by
  intro plan
  have made : (drawn strokes).toPlan = plan := by
    unfold toPlan
    rw [negotiator_eq, drawn_eq]
  have builds : (drawn strokes).build = plan.build := congrArg Plan.build made
  refine ⟨made, builds, ?_, ?_⟩
  · intro before c d after split apart
    have swapped := rearranges_swap apart before after
    rw [split]
    exact swapped.drawn_eq.symm
  · intro strokes' rearranges
    exact rearranges.drawn_eq.symm

end Gatekeeper.Sketch
