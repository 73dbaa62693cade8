import Gatekeeper.Proofs.Gate.Dispatch
import Gatekeeper.Proofs.Gate.Principal
import Gatekeeper.Proofs.Gate.Blur

namespace Gatekeeper

open Http (Request)

variable {ω : Type} {like : ω → ω → Prop}

namespace Subject

/-- The subject with every credential struck out. How many it has still shows. -/
def masked (s : Subject) : Subject :=
  { s with
    publicCredentials := s.publicCredentials.map fun _ => ""
    privateCredentials := s.privateCredentials.map fun _ => ⟨""⟩ }

/-- The two differ at most in the values of credentials. -/
def EqUpToCredentials (s s' : Subject) : Prop := s'.masked = s.masked

variable {s s' : Subject}

theorem eqUpToCredentials_iff :
    s.EqUpToCredentials s' ↔ s'.principals = s.principals ∧
      s'.publicCredentials.length = s.publicCredentials.length ∧
      s'.privateCredentials.length = s.privateCredentials.length := by
  simp [EqUpToCredentials, masked, List.map_const', List.replicate_inj]

namespace EqUpToCredentials

theorem refl (s : Subject) : s.EqUpToCredentials s := rfl

theorem addPrincipal (alike : s.EqUpToCredentials s') (p : Principal) :
    (s.addPrincipal p).EqUpToCredentials (s'.addPrincipal p) := by
  obtain ⟨principals, publics, privates⟩ := eqUpToCredentials_iff.mp alike
  unfold Subject.addPrincipal
  rw [principals]
  split
  · exact alike
  · exact eqUpToCredentials_iff.mpr ⟨rfl, publics, privates⟩

theorem addPublic (alike : s.EqUpToCredentials s') (credential credential' : String) :
    (s.addPublic credential).EqUpToCredentials (s'.addPublic credential') := by
  obtain ⟨principals, publics, privates⟩ := eqUpToCredentials_iff.mp alike
  have more : (s'.addPublic credential').publicCredentials.length =
      (s.addPublic credential).publicCredentials.length := by
    simp [Subject.addPublic, publics]
  exact eqUpToCredentials_iff.mpr ⟨principals, more, privates⟩

theorem addPrivate (alike : s.EqUpToCredentials s') (credential credential' : String) :
    (s.addPrivate credential).EqUpToCredentials (s'.addPrivate credential') := by
  obtain ⟨principals, publics, privates⟩ := eqUpToCredentials_iff.mp alike
  have more : (s'.addPrivate credential').privateCredentials.length =
      (s.addPrivate credential).privateCredentials.length := by
    simp [Subject.addPrivate, privates]
  exact eqUpToCredentials_iff.mpr ⟨principals, publics, more⟩

end EqUpToCredentials

end Subject

/-- The two modules go by the same name. Whatever the values of the credentials are that they find,
they answer alike and do the same to the exchange, and leave clients that differ in the values of
credentials only. -/
structure AuthModule.EqUpToCredentials (like : ω → ω → Prop) (m m' : AuthModule ω) : Prop where
  id : m'.id = m.id
  phases : m.toPhases.EqUpTo Subject.EqUpToCredentials Eq like m'.toPhases

def Blur.masking : Blur := ⟨Subject.masked, fun _ => rfl⟩

theorem AuthModule.EqUpToCredentials.eqUpTo {m m' : AuthModule ω}
    (alike : m.EqUpToCredentials like m') : m.EqUpTo (.strict .masking like) m' :=
  ⟨alike.id, alike.phases⟩

namespace Event

/-- The event with the credentials struck out of the subjects that are passed on with it. -/
def masked (e : Event) : Event := e.blur Subject.masked

/-- What shows no subject is the same once it is the same but for credentials. -/
theorem filterMap_of_masked {α : Type} {f : Event → Option α} (blind : ∀ e, f e.masked = f e)
    {journal journal' : List Event} (same : journal'.map masked = journal.map masked) :
    journal'.filterMap f = journal.filterMap f := by
  have unmasked : f ∘ masked = f := funext blind
  have seen (journal : List Event) : journal.filterMap f = (journal.map masked).filterMap f := by
    rw [List.filterMap_map, unmasked]
  rw [seen journal', seen journal, same]

end Event

namespace Gate

/-- Two runs whose modules and service subject differ in nothing but the values of credentials come
to the same response or the same halt, leave the same attributes, and report and log the same. They
make the same calls in the same order, in which nothing differs but these values. -/
theorem process_conceals_credentials {g : Gate ω} {c c' : Chain ω} {service : Subject}
    {resource : Resource ω} {memory memory' : ω}
    (chains : c.Paired (AuthModule.EqUpToCredentials like) c')
    (services : g.service.EqUpToCredentials service)
    (responder : Responder.EqUpToTrail Eq like g.responder g.responder)
    (sink : Audit.Sink.EqUpToMemory like g.sink g.sink)
    (resources : Resource.EqUpToAttributes Eq like resource resource)
    (memories : like memory memory') (fresh : String) (request : Request)
    (attributes : Attributes) :
    let r := (g.fronting c).process fresh resource request ⟨attributes, memory⟩
    let r' := ({ g with service }.fronting c').process fresh resource request ⟨attributes, memory'⟩
    r'.ending = r.ending ∧ r'.state.attributes = r.state.attributes ∧
      r'.journal.map Event.masked = r.journal.map Event.masked ∧
      (∃ e, r.journal.filter Event.isAudit = [.audited e] ∧
        r'.journal.filter Event.isAudit = [.audited e]) ∧
      r'.journal.filterMap Event.record? = r.journal.filterMap Event.record? := by
  intro r r'
  have paired : c.Paired (AuthModule.EqUpTo (.strict .masking like)) c' :=
    chains.imp fun _ _ alike => alike.eqUpTo
  have near : (g.fronting c).EqUpToBlur .masking like ({ g with service }.fronting c') :=
    paired.eqUpToBlur services responder sink
  have callers : Caller.EqUpToAttributes Eq like ⟨attributes, memory⟩ ⟨attributes, memory'⟩ :=
    ⟨rfl, memories⟩
  obtain ⟨ending, state, journal⟩ := near.process_inStep resources fresh request callers
  obtain ⟨principal, outcome, _, -, calls, -⟩ :=
    (g.fronting c).process_reports resource fresh request ⟨attributes, memory⟩
  have audited := audit_of_calls (g.fronting c) resource calls
  have auditsBlind : ∀ e : Event,
      Option.guard Event.isAudit e.masked = Option.guard Event.isAudit e := by
    intro e
    cases e <;> rfl
  have recordsBlind : ∀ e : Event, e.masked.record? = e.record? := by
    intro e
    cases e <;> rfl
  have audits : r'.journal.filter Event.isAudit = r.journal.filter Event.isAudit := by
    have seen := Event.filterMap_of_masked auditsBlind journal
    simpa only [List.filterMap_eq_filter] using seen
  have records := Event.filterMap_of_masked recordsBlind journal
  exact ⟨ending, state.attributes.symm, journal, ⟨_, audited, audits.trans audited⟩, records⟩

/-- A module that lets every request in under a name and hands out credentials, one of its own and
all that the service keeps to itself. -/
def vouching (name credential : String) : AuthModule ω :=
  { admitting name with
    id := "vouching"
    validate := fun service x held =>
      { result := .settled (.ok (some .success))
        draft := x.toDraft
        kept :=
          { held with
            client :=
              { (held.client.addPrincipal ⟨name⟩).addPublic credential with
                privateCredentials := service.privateCredentials } } } }

theorem vouching_eqUpToCredentials (name credential credential' : String) :
    (vouching name credential : AuthModule ω).EqUpToCredentials like
      (vouching name credential') where
  id := rfl
  phases :=
    { validate := by
        intro s s' x x' h h' services alike held
        obtain ⟨principals, publics, -⟩ := Subject.eqUpToCredentials_iff.mp
          ((held.client.addPrincipal ⟨name⟩).addPublic credential credential')
        obtain ⟨-, -, privates⟩ := Subject.eqUpToCredentials_iff.mp services
        have client : ((vouching name credential).validate s x h).kept.client.EqUpToCredentials
            ((vouching name credential').validate s' x' h').kept.client :=
          Subject.eqUpToCredentials_iff.mpr ⟨principals, publics, privates⟩
        exact ⟨rfl, alike.draft, rfl, client, held.memory⟩
      secure := fun _ alike memory => ⟨rfl, alike.draft, rfl, memory⟩
      clean := fun alike held => ⟨rfl, alike.draft, rfl, held⟩ }

/-- The credentials that two modules hand out, and those of two services, tell their runs apart, but
not what comes of them. -/
theorem process_conceals_credentials_of_vouching :
    let g : Gate Audit.Ledger :=
      { sink := .recording
        responder := Negotiator.toResponder {}
        authenticator := Chain.toAuthenticator {}
        service := Subject.addPrivate {} "red" }
    let service := Subject.addPrivate {} "blue"
    let c : Chain Audit.Ledger := { modules := [vouching "alice" "one"] }
    let c' : Chain Audit.Ledger := { modules := [vouching "alice" "two"] }
    let resource : Resource Audit.Ledger := ⟨fun _ c => (.settled {}, c)⟩
    let r := (g.fronting c).process "1" resource {} ⟨{}, {}⟩
    let r' := ({ g with service }.fronting c').process "1" resource {} ⟨{}, {}⟩
    c.Paired (AuthModule.EqUpToCredentials Eq) c' ∧ g.service.EqUpToCredentials service ∧
      r'.journal ≠ r.journal ∧ r'.journal.map Event.masked = r.journal.map Event.masked ∧
      r'.ending = r.ending := by
  intro g service c c' resource r r'
  have chains : c.Paired (AuthModule.EqUpToCredentials Eq) c' :=
    ⟨.none, .cons (vouching_eqUpToCredentials "alice" "one" "two") .nil, rfl⟩
  have services : g.service.EqUpToCredentials service :=
    (Subject.EqUpToCredentials.refl {}).addPrivate "red" "blue"
  have differ : r'.journal ≠ r.journal := by
    intro same
    let handed : Event → Option (List String)
      | .cleaning _ client => some client.publicCredentials
      | _ => none
    have clients : [["two"]] = [["one"]] := congrArg (List.filterMap handed) same
    exact absurd clients (by decide)
  obtain ⟨ending, -, journal, -⟩ :=
    process_conceals_credentials chains services g.responder.eqUpTo_self g.sink.eqUpTo_self
      resource.eqUpTo_self rfl "1" {} {}
  exact ⟨chains, services, differ, journal, ending⟩

end Gate

end Gatekeeper
