import Gatekeeper.Assembly.Sketch

namespace Gatekeeper

variable {ω : Type}

namespace Text

/-- The piece stands somewhere in the text. -/
def Occurs (piece text : String) : Prop := piece.toList <:+: text.toList

theorem Occurs.trans {piece part text : String} (inner : Occurs piece part)
    (outer : Occurs part text) : Occurs piece text := List.IsInfix.trans inner outer

theorem occurs_append_left (piece after : String) : Occurs piece (piece ++ after) := by
  rw [Occurs, String.toList_append]
  exact (List.prefix_append _ _).isInfix

theorem occurs_append_right (before piece : String) : Occurs piece (before ++ piece) := by
  rw [Occurs, String.toList_append]
  exact (List.suffix_append _ _).isInfix

theorem occurs_between (before piece after : String) : Occurs piece (before ++ piece ++ after) :=
  (occurs_append_right before piece).trans (occurs_append_left _ after)

theorem occurs_intercalate {item : String} {items : List String} (member : item ∈ items)
    (separator : String) : Occurs item (separator.intercalate items) := by
  induction items with
  | nil => cases member
  | cons first rest ih =>
    by_cases last : rest = []
    · rw [last, List.mem_singleton] at member
      rw [last, member, String.intercalate_singleton]
      exact List.infix_rfl
    · rw [String.intercalate_cons_of_ne_nil last]
      rcases List.mem_cons.mp member with rfl | later
      · rw [String.append_assoc]
        exact occurs_append_left _ _
      · exact (ih later).trans (occurs_append_right _ _)

theorem occurs_sequence {item : String} {items : List String} (member : item ∈ items) :
    Occurs item (sequence items) :=
  (occurs_intercalate member _).trans (occurs_between _ _ _)

theorem occurs_quotedSequence {name : String} {names : List String} (member : name ∈ names) :
    Occurs (quoted name) (quotedSequence names) :=
  occurs_sequence (List.mem_map_of_mem member)

theorem occurs_optional {text : String} {optionalText : Option String}
    (given : optionalText = some text) : Occurs text (optional optionalText) := by
  rw [given]
  exact occurs_between _ _ _

section

variable {value : String} {fields : List (String × String)} (member : value ∈ fields.map Prod.snd)

include member

theorem exists_fieldText : ∃ text ∈ fieldTexts fields, Occurs value text := by
  obtain ⟨field, listed, rfl⟩ := List.mem_map.mp member
  exact ⟨_, List.mem_map_of_mem listed, occurs_append_right _ _⟩

theorem occurs_record (name : String) : Occurs value (record name fields) := by
  obtain ⟨text, listed, within⟩ := exists_fieldText member
  exact (within.trans (occurs_intercalate listed _)).trans (occurs_between _ _ _)

theorem occurs_openRecord (name : String) : Occurs value (openRecord name fields) := by
  obtain ⟨text, listed, within⟩ := exists_fieldText member
  have joined := occurs_intercalate (List.mem_append_left [".."] listed) ", "
  exact (within.trans joined).trans (occurs_between _ _ _)

end

end Text

open Text

/-- The text shows these names of a value, in quotation marks, and nothing of what is struck out: it
is the same for any two values that differ in no more than that, and it is the text of the value
with all of it struck out. -/
structure Discreet {α : Type} (strike : α → α) (shown : α → List String) (text : α → String) :
    Prop where
  alike : ∀ a a', strike a' = strike a → text a' = text a
  struck : ∀ a, text (strike a) = text a
  shows : ∀ a, ∀ name ∈ shown a, Occurs (quoted name) (text a)

theorem Discreet.of_struck {α : Type} {strike : α → α} {shown : α → List String} {text : α → String}
    (struck : ∀ a, text (strike a) = text a)
    (shows : ∀ a, ∀ name ∈ shown a, Occurs (quoted name) (text a)) :
    Discreet strike shown text where
  alike a a' same := by rw [← struck a', same, struck a]
  struck
  shows

namespace Json.Object

/-- The object with all values struck out. The keys stay, in their order. -/
def redacted (o : Object) : Object := o.map fun m => (m.1, .null)

theorem keys_redacted (o : Object) : keys (redacted o) = keys o := by
  simp [redacted, keys]

theorem redacted_eq_iff {o o' : Object} : redacted o' = redacted o ↔ keys o' = keys o := by
  have blank (o : Object) : redacted o = (keys o).map fun key => (key, .null) := by
    simp [redacted, keys]
  constructor
  · intro same
    rw [← keys_redacted o', same, keys_redacted]
  · intro same
    rw [blank, blank, same]

end Json.Object

namespace Subject

/-- The subject with the private credentials struck out. How many there are still shows. -/
def redacted (s : Subject) : Subject :=
  { s with privateCredentials := s.privateCredentials.map fun _ => ⟨""⟩ }

def shown (s : Subject) : List String := s.principals.map (·.name) ++ s.publicCredentials

theorem redacted_eq_iff {s s' : Subject} :
    s'.redacted = s.redacted ↔ s'.principals = s.principals ∧
      s'.publicCredentials = s.publicCredentials ∧
      s'.privateCredentials.length = s.privateCredentials.length := by
  simp [redacted, List.map_const', List.replicate_inj]

theorem diagnostic_redacted (s : Subject) : s.redacted.diagnostic = s.diagnostic := by
  have hidden : Concealed.sequence s.redacted.privateCredentials =
      Concealed.sequence s.privateCredentials :=
    Concealed.sequence_eq_of_length_eq (List.length_map _)
  rw [diagnostic, diagnostic, hidden]
  rfl

theorem diagnostic_shows (s : Subject) :
    ∀ name ∈ s.shown, Occurs (quoted name) s.diagnostic := by
  intro name member
  rcases List.mem_append.mp member with principal | credential
  · obtain ⟨p, held, rfl⟩ := List.mem_map.mp principal
    have named : Occurs (quoted p.name) p.diagnostic := occurs_record (List.mem_singleton_self _) _
    have listed : Occurs p.diagnostic (sequence (s.principals.map Principal.diagnostic)) :=
      occurs_sequence (List.mem_map_of_mem held)
    exact (named.trans listed).trans (occurs_record (by simp) _)
  · exact (occurs_quotedSequence credential).trans (occurs_record (by simp) _)

end Subject

namespace Attributes

/-- The attributes with the published values struck out. -/
def redacted (a : Attributes) : Attributes := { a with published := a.published.redacted }

def shown (a : Attributes) : List String :=
  a.requestId.toList ++ a.principal.toList ++ a.published.keys

theorem redacted_eq_iff {a a' : Attributes} :
    a'.redacted = a.redacted ↔ a'.requestId = a.requestId ∧ a'.principal = a.principal ∧
      a'.authContext = a.authContext ∧ a'.published.keys = a.published.keys := by
  simp [redacted, Json.Object.redacted_eq_iff]

theorem diagnostic_redacted (a : Attributes) : a.redacted.diagnostic = a.diagnostic := by
  have keys : a.redacted.published.keys = a.published.keys := Json.Object.keys_redacted _
  rw [diagnostic, diagnostic, keys]
  rfl

theorem diagnostic_shows (a : Attributes) :
    ∀ name ∈ a.shown, Occurs (quoted name) a.diagnostic := by
  intro name member
  have optional {text : Option String} (given : name ∈ text.toList) :
      Occurs (quoted name) (quotedOptional text) := by
    rw [Option.mem_toList] at given
    exact occurs_optional (congrArg (Option.map quoted) given)
  rcases List.mem_append.mp member with given | key
  · rcases List.mem_append.mp given with id | principal
    · exact (optional id).trans (occurs_record (by simp) _)
    · exact (optional principal).trans (occurs_record (by simp) _)
  · exact (occurs_quotedSequence key).trans (occurs_record (by simp) _)

end Attributes

namespace Configured

/-- The module with the values of its settings struck out, and no callbacks of its own. -/
def redacted (c : Configured ω) : Configured ω :=
  { c with setup :=
      { c.setup with callbacks := .accepting, settings := c.setup.settings.redacted } }

def shown (c : Configured ω) : List String := c.id :: c.setup.settings.keys

theorem redacted_eq_iff {c c' : Configured ω} :
    c'.redacted = c.redacted ↔ c'.blueprint = c.blueprint ∧
      c'.setup.requestPolicy = c.setup.requestPolicy ∧
      c'.setup.responsePolicy = c.setup.responsePolicy ∧
      c'.setup.settings.keys = c.setup.settings.keys := by
  simp [redacted, Json.Object.redacted_eq_iff]

theorem diagnostic_redacted (c : Configured ω) : c.redacted.diagnostic = c.diagnostic := by
  have keys : c.redacted.setup.settings.keys = c.setup.settings.keys :=
    Json.Object.keys_redacted _
  rw [diagnostic, diagnostic, keys]
  rfl

theorem diagnostic_shows (c : Configured ω) :
    ∀ name ∈ c.shown, Occurs (quoted name) c.diagnostic := by
  intro name member
  rcases List.mem_cons.mp member with rfl | key
  · exact occurs_record (by simp) _
  · exact (occurs_quotedSequence key).trans (occurs_record (by simp) _)

end Configured

namespace Plan

/-- The plan with its modules redacted, and with a service of which nothing is known. -/
def redacted (p : Plan ω) : Plan ω :=
  { p with
    service := {}
    session := p.session.map Configured.redacted
    modules := p.modules.map Configured.redacted }

def shown (p : Plan ω) : List String :=
  p.logger.name :: (p.session.toList ++ p.modules).flatMap Configured.shown

theorem diagnostic_redacted (p : Plan ω) : p.redacted.diagnostic = p.diagnostic := by
  have hidden : (Configured.diagnostic ∘ Configured.redacted : Configured ω → String) =
      Configured.diagnostic := funext Configured.diagnostic_redacted
  have session : p.redacted.session.map Configured.diagnostic =
      p.session.map Configured.diagnostic := by
    rw [redacted, Option.map_map, hidden]
  have modules : p.redacted.modules.map Configured.diagnostic =
      p.modules.map Configured.diagnostic := by
    rw [redacted, List.map_map, hidden]
  rw [diagnostic, diagnostic, session, modules]
  rfl

theorem diagnostic_shows (p : Plan ω) :
    ∀ name ∈ p.shown, Occurs (quoted name) p.diagnostic := by
  intro name member
  rcases List.mem_cons.mp member with rfl | configured
  · exact occurs_openRecord (by simp) _
  · obtain ⟨c, held, told⟩ := List.mem_flatMap.mp configured
    have named := c.diagnostic_shows name told
    rcases List.mem_append.mp held with session | module
    · rw [Option.mem_toList] at session
      have given := occurs_optional (congrArg (Option.map Configured.diagnostic) session)
      exact (named.trans given).trans (occurs_openRecord (by simp) _)
    · have listed : Occurs c.diagnostic (sequence (p.modules.map Configured.diagnostic)) :=
        occurs_sequence (List.mem_map_of_mem module)
      exact (named.trans listed).trans (occurs_openRecord (by simp) _)

end Plan

namespace Sketch

def redacted (s : Sketch ω) : Sketch ω := { s with plan := s.plan.redacted }

def shown (s : Sketch ω) : List String := s.plan.shown ++ s.writers.map (·.mediaType)

theorem diagnostic_redacted (s : Sketch ω) : s.redacted.diagnostic = s.diagnostic := by
  have plan : s.redacted.plan.diagnostic = s.plan.diagnostic := s.plan.diagnostic_redacted
  rw [diagnostic, diagnostic, plan]
  rfl

theorem diagnostic_shows (s : Sketch ω) :
    ∀ name ∈ s.shown, Occurs (quoted name) s.diagnostic := by
  intro name member
  rcases List.mem_append.mp member with planned | writer
  · exact (s.plan.diagnostic_shows name planned).trans (occurs_record (by simp) _)
  · exact (occurs_quotedSequence writer).trans (occurs_record (by simp) _)

end Sketch

/-- No secret stands in a diagnostic text or has any influence on it: not the private credentials of
a subject, not the published values of attributes, and, where a module is configured, by itself, in
a plan or in a sketch of one, not the values of its settings, nor its callbacks, nor the service.
Names and keys are shown. -/
theorem diagnostics_discreet :
    Discreet Subject.redacted Subject.shown Subject.diagnostic ∧
    Discreet Attributes.redacted Attributes.shown Attributes.diagnostic ∧
    Discreet (Configured.redacted : Configured ω → Configured ω) Configured.shown
      Configured.diagnostic ∧
    Discreet (Plan.redacted : Plan ω → Plan ω) Plan.shown Plan.diagnostic ∧
    Discreet (Sketch.redacted : Sketch ω → Sketch ω) Sketch.shown Sketch.diagnostic :=
  ⟨.of_struck Subject.diagnostic_redacted Subject.diagnostic_shows,
    .of_struck Attributes.diagnostic_redacted Attributes.diagnostic_shows,
    .of_struck Configured.diagnostic_redacted Configured.diagnostic_shows,
    .of_struck Plan.diagnostic_redacted Plan.diagnostic_shows,
    .of_struck Sketch.diagnostic_redacted Sketch.diagnostic_shows⟩

/-- Two sketches of a service with another pin and a module for another realm, which goes with other
callbacks, read the same. That there is a realm shows in both. -/
theorem diagnostics_discreet_of_realms :
    let service (pin : String) : Subject := (Subject.addPrincipal {} ⟨"orders"⟩).addPrivate pin
    let attributes (tenant : String) : Attributes :=
      Attributes.authenticate {} (some "alice") ["basic"] [("tenant", .string tenant)]
    let configured (realm : String) (callbacks : CallbackHandler) : Configured Unit :=
      { blueprint := { id := "basic", setUp := fun _ w => (.ok (.error { message := "unset" }), w) }
        setup := { callbacks, settings := [("realm", .string realm)] } }
    let sketch (pin realm : String) (callbacks : CallbackHandler) : Sketch Unit :=
      (Sketch.service {} (service pin)).authModule (configured realm callbacks)
    let refusing : CallbackHandler := ⟨fun asked => (.error { message := "no" }, asked)⟩
    let s := sketch "1234" "inner" .accepting
    let s' := sketch "9876" "outer" refusing
    (service "9876").diagnostic = (service "1234").diagnostic ∧
      (attributes "red").diagnostic = (attributes "blue").diagnostic ∧
      s'.plan.service ≠ s.plan.service ∧ s'.diagnostic = s.diagnostic ∧
      Occurs (quoted "realm") s.diagnostic := by
  intro service attributes configured sketch refusing s s'
  obtain ⟨subjects, published, -, -, sketches⟩ := diagnostics_discreet (ω := Unit)
  have services : (service "9876").redacted = (service "1234").redacted :=
    Subject.redacted_eq_iff.mpr ⟨rfl, rfl, rfl⟩
  have tenants : (attributes "red").redacted = (attributes "blue").redacted :=
    Attributes.redacted_eq_iff.mpr ⟨rfl, rfl, rfl, rfl⟩
  have realms : (configured "outer" refusing).redacted =
      (configured "inner" .accepting).redacted :=
    Configured.redacted_eq_iff.mpr ⟨rfl, rfl, rfl, rfl⟩
  have redacted : s'.redacted = s.redacted :=
    congrArg (fun c => Sketch.authModule {} c) realms
  exact ⟨subjects.alike _ _ services, published.alike _ _ tenants, by decide,
    sketches.alike _ _ redacted, sketches.shows s _ (by decide)⟩

end Gatekeeper
