import Gatekeeper.Proofs.Chain.InStep

namespace Gatekeeper

variable {ω κ ρ : Type}

/-- The two are the same but for their responses. -/
structure Exchange.EqUpToResponse (x x' : Exchange) : Prop where
  id : x'.id = x.id
  request : x'.request = x.request
  shared : x'.shared = x.shared
  trail : x'.trail = x.trail

structure Proceeding.EqUpToResponse (like : ω → ω → Prop) (p p' : Proceeding ω) : Prop where
  custody : Custody.EqUpToMemory like p.toCustody p'.toCustody
  exchange : p.exchange.EqUpToResponse p'.exchange
  vouchedBy : p'.vouchedBy = p.vouchedBy

/-- The two decide alike and leave drafts that are the same but for their responses. -/
structure Visit.EqUpToResponse (like : κ → κ → Prop) (v v' : Visit κ ρ) : Prop where
  result : v'.result = v.result
  request : v'.draft.request = v.draft.request
  shared : v'.draft.shared = v.draft.shared
  notes : v'.notes = v.notes
  kept : like v.kept v'.kept

/-- The two modules do not go by the response, and differ in nothing but what they write into it
while they validate and secure. -/
structure AuthModule.EqUpToResponse (like : ω → ω → Prop) (m m' : AuthModule ω) : Prop where
  id : m'.id = m.id
  validate : ∀ service {x x' h h'}, Exchange.EqUpToResponse x x' → Custody.EqUpToMemory like h h' →
    Visit.EqUpToResponse (Custody.EqUpToMemory like) (m.validate service x h)
      (m'.validate service x' h')
  secure : ∀ service {x x' w w'}, Exchange.EqUpToResponse x x' → like w w' →
    Visit.EqUpToResponse like (m.secure service x w) (m'.secure service x' w')

variable {like : ω → ω → Prop}

theorem Exchange.EqUpToResponse.revise {x x' : Exchange} (agree : x.EqUpToResponse x')
    {draft draft' : Draft} {notes notes' : List Audit.Entry}
    (request : draft'.request = draft.request) (shared : draft'.shared = draft.shared)
    (noted : notes' = notes) :
    (x.revise draft notes).EqUpToResponse (x'.revise draft' notes') where
  id := agree.id
  request := request
  shared := shared
  trail := by rw [revise_trail, revise_trail, agree.trail, noted]

theorem Proceeding.EqUpToResponse.recordDecision {p p' : Proceeding ω}
    (agree : p.EqUpToResponse like p') (moduleId : String) (phase : Phase) (a : Answer) :
    (p.recordDecision moduleId phase a).EqUpToResponse like
      (p'.recordDecision moduleId phase a) where
  custody := agree.custody
  exchange :=
    { id := agree.exchange.id
      request := agree.exchange.request
      shared := agree.exchange.shared
      trail := by cases a <;> exact congrArg (· ++ _) agree.exchange.trail }
  vouchedBy := agree.vouchedBy

/-- Nothing is noted of the runs, for a call shows the response that is prepared. -/
abbrev Alignment.upToResponse (like : ω → ω → Prop) : Alignment ω Unit where
  watch := .silent
  like := Proceeding.EqUpToResponse like
  place := id
  vouchedBy agree := by rw [agree.vouchedBy, Option.map_id, id]
  vouches n agree := ⟨agree.custody, agree.exchange, congrFun Option.map_id n⟩
  notes moduleId phase a := by
    refine .get_bind ?_
    intro p p' _
    refine .seq (.emit rfl) (.modify ?_)
    intro q q' agree
    exact agree.recordDecision moduleId phase a

theorem AuthModule.EqUpToResponse.decidesInStep {m m' : AuthModule ω}
    (agree : m.EqUpToResponse like m') (service : Subject) :
    m.DecidesInStep (.upToResponse like) service service m' where
  id := agree.id
  validateAt n p p' held := by
    have visits := agree.validate service held.exchange held.custody
    have exchange := held.exchange.revise visits.request visits.shared visits.notes
    exact ⟨.of_eq visits.result, ⟨visits.kept, exchange, held.vouchedBy⟩, rfl⟩
  secureAt n p p' held := by
    have visits := agree.secure service held.exchange held.custody.memory
    have exchange := held.exchange.revise visits.request visits.shared visits.notes
    have custody : Custody.EqUpToMemory like (m.secureAt n service p).state.toCustody
        (m'.secureAt n service p').state.toCustody := ⟨held.custody.client, visits.kept⟩
    exact ⟨.of_eq visits.result, ⟨custody, exchange, held.vouchedBy⟩, rfl⟩

namespace Chain

variable {c c' : Chain ω} (agree : c.Paired (AuthModule.EqUpToResponse like) c') (service : Subject)

include agree

theorem decidesInStep_of_eqUpToResponse :
    c.Paired (AuthModule.DecidesInStep (.upToResponse like) service service) c' :=
  agree.imp fun _ _ agree => agree.decidesInStep service

/-- From proceedings that are the same but for their responses. -/
theorem validate_eqUpToResponse {p p' : Proceeding ω} (held : p.EqUpToResponse like p') :
    (c'.validate service p').ending = (c.validate service p).ending ∧
      (c.validate service p).state.EqUpToResponse like (c'.validate service p').state := by
  have decides := decidesInStep_of_eqUpToResponse agree service
  have inStep := validate_inStep decides fun _ => rfl
  obtain ⟨ending, state, -⟩ := inStep p p' held
  exact ⟨ending.eq, state⟩

theorem secure_eqUpToResponse {p p' : Proceeding ω} (held : p.EqUpToResponse like p') :
    (c'.secure service p').ending = (c.secure service p).ending ∧
      (c.secure service p).state.EqUpToResponse like (c'.secure service p').state := by
  have decides := decidesInStep_of_eqUpToResponse agree service
  have inStep := secure_inStep (decides.stay fun _ => rfl)
  obtain ⟨ending, state, -⟩ := inStep p p' held
  exact ⟨ending.eq, state⟩

end Chain

end Gatekeeper
