import Gatekeeper.Proofs.Chain.Response
import Gatekeeper.Proofs.Gate.Dispatch
import Gatekeeper.Proofs.Gate.Stages

namespace Gatekeeper

open Http (Request Response)

variable {ω : Type}

namespace Directive

variable {phase : Phase} {ending : Ending Answer} {d : Directive}

theorem of?_cases (directed : of? phase ending = some d) :
    (∃ e, d = refuse e) ∨ ∃ v, d = ofVerdict phase v := by
  match ending with
  | .settled (.ok v) => exact .inr ⟨v, (Option.some.inj directed).symm⟩
  | .settled (.error e) => exact .inl ⟨e, (Option.some.inj directed).symm⟩
  | .halted (.crashed c) => exact .inl ⟨_, (Option.some.inj directed).symm⟩

/-- A response that modules may have written is sent only if all went well. -/
theorem of?_send {outcome : Audit.Outcome} (directed : of? phase ending = some (send outcome)) :
    outcome ≠ .denied ∧ outcome ≠ .error := by
  rcases of?_cases directed with ⟨e, refused⟩ | ⟨v, told⟩
  · cases refused
  · match phase, v with
    | .validateRequest, some .sendSuccess | .validateRequest, some .sendContinue
    | .secureResponse, some .sendSuccess | .secureResponse, some .sendContinue =>
      cases told
      decide
    | .validateRequest, some .success | .validateRequest, some .sendFailure
    | .validateRequest, some .failure | .validateRequest, none | .secureResponse, some .success
    | .secureResponse, some .sendFailure | .secureResponse, some .failure
    | .secureResponse, none => cases told

theorem of?_serve (directed : of? phase ending = some serve) : phase = .validateRequest := by
  rcases of?_cases directed with ⟨e, refused⟩ | ⟨v, told⟩
  · cases refused
  · match phase, v with
    | .validateRequest, _ => rfl
    | .secureResponse, some .success | .secureResponse, some .sendSuccess
    | .secureResponse, some .sendContinue | .secureResponse, some .sendFailure
    | .secureResponse, some .failure | .secureResponse, none => cases told

end Directive

/-- The resources may answer what they will. What else they do to the memory is alike. -/
def Resource.EqOnMemory (like : ω → ω → Prop) (resource resource' : Resource ω) : Prop :=
  ∀ request attributes memory memory', like memory memory' →
    like (resource.handle request ⟨attributes, memory⟩).2.memory
      (resource'.handle request ⟨attributes, memory'⟩).2.memory

/-- The two stages differ in responses only, and not even in the response to a request that is
denied or ends in an error. -/
inductive Stage.EqUpToResponse (like : ω → ω → Prop) : Stage ω → Stage ω → Prop
  | validating {p p'} (attributes) (agree : Proceeding.EqUpToResponse like p p') :
      EqUpToResponse like (.validating p attributes) (.validating p' attributes)
  | dispatching {p p'} (attributes) (agree : Proceeding.EqUpToResponse like p p') :
      EqUpToResponse like (.dispatching p attributes) (.dispatching p' attributes)
  | securing {p p'} (attributes attributes') (agree : Proceeding.EqUpToResponse like p p') :
      EqUpToResponse like (.securing p attributes) (.securing p' attributes')
  | refusing {p p'} (e) (agree : Proceeding.EqUpToResponse like p p') :
      EqUpToResponse like (.refusing e p) (.refusing e p')
  | cleaning {response response' outcome} (p p')
      (same : outcome = .denied ∨ outcome = .error → response' = response) :
      EqUpToResponse like (.cleaning response outcome p) (.cleaning response' outcome p')
  | done {response response' outcome}
      (same : outcome = .denied ∨ outcome = .error → response' = response) :
      EqUpToResponse like (.done response outcome) (.done response' outcome)

theorem Proceeding.EqUpToResponse.resolvePrincipal {like : ω → ω → Prop} {p p' : Proceeding ω}
    (agree : p.EqUpToResponse like p') : p'.resolvePrincipal = p.resolvePrincipal := by
  rw [Proceeding.resolvePrincipal, Proceeding.resolvePrincipal, agree.exchange.shared,
    agree.custody.client]

namespace Gate

variable {g : Gate ω} {n : Negotiator} {like : ω → ω → Prop} {c c' : Chain ω}
  {resource resource' : Resource ω}

/-- What follows a phase that ends alike in both runs. -/
theorem follow_eqUpToResponse (chains : c.Paired (AuthModule.EqUpToResponse like) c')
    {p p' : Proceeding ω} (agree : p.EqUpToResponse like p') {attributes attributes' : Attributes}
    {phase : Phase} {ending ending' : Ending Answer} (alike : ending' = ending)
    (admitted : phase = .validateRequest → attributes' = attributes) {b b' : Stage ω}
    (next : (Directive.of? phase ending).map ((g.fronting c).follow p attributes) = some b)
    (next' : (Directive.of? phase ending').map ((g.fronting c').follow p' attributes') =
      some b') : b.EqUpToResponse like b' := by
  obtain ⟨d, directed, rfl⟩ := Option.map_eq_some_iff.mp next
  obtain ⟨d', directed', rfl⟩ := Option.map_eq_some_iff.mp next'
  rw [alike, directed] at directed'
  cases directed'
  have ids : c'.moduleIds = c.moduleIds := chains.moduleIds fun _ _ agree => agree.id
  cases d with
  | serve =>
    have same := admitted (Directive.of?_serve directed)
    simp only [follow, fronting, Chain.toAuthenticator, same, ids, agree.resolvePrincipal,
      agree.exchange.shared]
    exact .dispatching _ agree
  | send outcome =>
    obtain ⟨undenied, unfailed⟩ := Directive.of?_send directed
    apply Stage.EqUpToResponse.cleaning
    intro refusal
    rcases refusal with denied | failed
    · exact (undenied denied).elim
    · exact (unfailed failed).elim
  | reject status outcome => exact .cleaning _ _ fun _ => rfl
  | refuse e => exact .refusing e agree

/-- One step of the machine. -/
theorem next_eqUpToResponse (negotiates : g.responder = n.toResponder)
    (chains : c.Paired (AuthModule.EqUpToResponse like) c')
    (resources : resource.EqOnMemory like resource')
    {a a' b b' : Stage ω} (agree : a.EqUpToResponse like a')
    (next : (g.fronting c).next? resource a = some b)
    (next' : (g.fronting c').next? resource' a' = some b') : b.EqUpToResponse like b' := by
  cases agree with
  | @validating p p' attributes agree =>
    obtain ⟨ending, state⟩ := Chain.validate_eqUpToResponse chains g.service agree
    exact follow_eqUpToResponse chains state ending (fun _ => rfl) next next'
  | @dispatching p p' attributes agree =>
    have memory := resources p.exchange.request attributes p.memory p'.memory agree.custody.memory
    have copy := congrArg Request.copy agree.exchange.request
    simp only [next?, agree.exchange.request] at next next'
    split at next
    · split at next'
      · cases next
        cases next'
        apply Stage.EqUpToResponse.securing
        constructor
        case custody => exact ⟨agree.custody.client, memory⟩
        case exchange =>
          exact ⟨agree.exchange.id, copy, agree.exchange.shared, agree.exchange.trail⟩
        case vouchedBy => exact agree.vouchedBy
      · cases next'
    · cases next
  | @securing p p' attributes attributes' agree =>
    obtain ⟨ending, state⟩ := Chain.secure_eqUpToResponse chains g.service agree
    have admitted : Phase.secureResponse = .validateRequest → attributes' = attributes := by
      intro validation
      cases validation
    exact follow_eqUpToResponse chains state ending admitted next next'
  | @refusing p p' e agree =>
    simp only [next?, fronting, negotiates, Negotiator.toResponder, agree.exchange.request]
      at next next'
    cases next
    cases next'
    exact .cleaning _ _ fun _ => rfl
  | cleaning p p' same =>
    simp only [next?] at next next'
    split at next
    · cases next
    · split at next'
      · cases next'
      · cases next
        cases next'
        exact .done same
  | done => cases next

/-- The whole way of the machine, to both its ends. -/
theorem leads_eqUpToResponse (negotiates : g.responder = n.toResponder)
    (chains : c.Paired (AuthModule.EqUpToResponse like) c')
    (resources : resource.EqOnMemory like resource')
    {a a' : Stage ω} {calls calls' : List Event} {r r' : Response} {o o' : Audit.Outcome}
    (agree : a.EqUpToResponse like a') (leads : (g.fronting c).Leads resource a calls (.done r o))
    (leads' : (g.fronting c').Leads resource' a' calls' (.done r' o')) :
    (Stage.done r o : Stage ω).EqUpToResponse like (.done r' o') := by
  generalize ends : Stage.done r o = b at leads
  induction leads generalizing a' calls' with
  | stay =>
    subst ends
    cases agree with
    | done same =>
      cases leads' with
      | stay => exact .done same
      | step next _ => cases next
  | step next _ ih =>
    cases leads' with
    | stay =>
      cases agree
      cases next
    | step next' leads' =>
      have near := next_eqUpToResponse negotiates chains resources agree next next'
      exact ih near leads' ends

theorem done_of_settled {fresh : String} {request : Request} {caller : Caller ω}
    {response : Response}
    (settled : (g.process fresh resource request caller).ending = .settled response) :
    ∃ calls event,
      (g.process fresh resource request caller).journal.filter Event.isAudit = [.audited event] ∧
      g.Leads resource
        (.validating (opening fresh request caller).toProceeding
          (opening fresh request caller).attributes)
        calls (.done response event.outcome) := by
  obtain ⟨settlement, done, answered, cleaned, rfl, audited⟩ := finished_of_process settled
  have leads := leads_of_finished answered cleaned
  exact ⟨_, _, audited, leads⟩

/-- Two gates with one negotiator, in front of chains and resources that differ in their responses
only, end a request with one outcome, and refuse it with one and the same response. -/
theorem process_refuses_alike (negotiates : g.responder = n.toResponder)
    (chains : c.Paired (AuthModule.EqUpToResponse like) c')
    (resources : resource.EqOnMemory like resource') (fresh : String) (request : Request)
    (attributes : Attributes) {memory memory' : ω} (memories : like memory memory')
    {response response' : Response}
    (settled : ((g.fronting c).process fresh resource request ⟨attributes, memory⟩).ending =
      .settled response)
    (settled' : ((g.fronting c').process fresh resource' request ⟨attributes, memory'⟩).ending =
      .settled response') :
    ∃ event event',
      ((g.fronting c).process fresh resource request ⟨attributes, memory⟩).journal.filter
        Event.isAudit = [.audited event] ∧
      ((g.fronting c').process fresh resource' request ⟨attributes, memory'⟩).journal.filter
        Event.isAudit = [.audited event'] ∧
      event'.outcome = event.outcome ∧
      (event.outcome = .denied ∨ event.outcome = .error → response' = response) := by
  obtain ⟨calls, event, audit, leads⟩ := done_of_settled settled
  obtain ⟨calls', event', audit', leads'⟩ := done_of_settled settled'
  have start : Proceeding.EqUpToResponse like
      (opening fresh request ⟨attributes, memory⟩).toProceeding
      (opening fresh request ⟨attributes, memory'⟩).toProceeding := by
    constructor
    case custody => exact ⟨rfl, memories⟩
    case exchange => exact ⟨rfl, rfl, rfl, rfl⟩
    case vouchedBy => rfl
  have ends := leads_eqUpToResponse negotiates chains resources (.validating _ start) leads leads'
  generalize outcome : event.outcome = o at ends ⊢
  generalize outcome' : event'.outcome = o' at ends ⊢
  cases ends with
  | done same =>
    have outcomes : event'.outcome = event.outcome := outcome'.trans outcome.symm
    exact ⟨event, event', audit, audit', outcomes, by rwa [outcome]⟩

/-- Two answers of the resource, and two drafts of a module that writes over them and cannot sign:
the client sees none of the four. -/
theorem process_refuses_alike_of_unsigned :
    let signing (body : ByteArray) : AuthModule Audit.Ledger :=
      { admitting "alice" with
        secure := fun _ x memory =>
          { result := .settled (.error { message := "no key" })
            draft := x.toDraft.editResponse fun r => { r with body }, kept := memory } }
    let chain (body : ByteArray) : Chain Audit.Ledger := { modules := [signing body] }
    let answering (body : ByteArray) : Resource Audit.Ledger := ⟨fun _ c => (.settled { body }, c)⟩
    let g : Gate Audit.Ledger :=
      { sink := .recording
        responder := Negotiator.toResponder {}
        authenticator := Chain.toAuthenticator {} }
    let first := (g.fronting (chain "a".toUTF8)).process "1" (answering "b".toUTF8) {} ⟨{}, {}⟩
    let second := (g.fronting (chain "c".toUTF8)).process "1" (answering "d".toUTF8) {} ⟨{}, {}⟩
    ∃ response response',
      first.ending = .settled response ∧ second.ending = .settled response' ∧
      response' = response := by
  intro signing chain answering g first second
  have same (body body' : ByteArray) : (signing body).EqUpToResponse Eq (signing body') := by
    constructor
    case id => rfl
    case validate =>
      intro service x x' h h' exchange held
      have client : h'.client.addPrincipal ⟨"alice"⟩ = h.client.addPrincipal ⟨"alice"⟩ := by
        rw [held.client]
      exact ⟨rfl, exchange.request, exchange.shared, rfl, ⟨client, held.memory⟩⟩
    case secure =>
      intro service x x' w w' exchange memory
      exact ⟨rfl, exchange.request, exchange.shared, rfl, memory⟩
  have chains : (chain "a".toUTF8).Paired (AuthModule.EqUpToResponse Eq) (chain "c".toUTF8) :=
    ⟨.none, .cons (same _ _) .nil, rfl⟩
  have resources : (answering "b".toUTF8).EqOnMemory Eq (answering "d".toUTF8) := by
    intro request attributes memory memory' same
    exact same
  obtain ⟨event, event', audit, -, -, alike⟩ :=
    process_refuses_alike (g := g) (n := {}) rfl chains resources "1" {} {} rfl rfl rfl
  obtain ⟨told, made, failed⟩ : ∃ e : Audit.Event,
      first.journal.filter Event.isAudit = [.audited e] ∧ e.outcome = .error := ⟨_, rfl, rfl⟩
  cases made.symm.trans audit
  exact ⟨_, _, rfl, rfl, alike (.inr failed)⟩

end Gate

end Gatekeeper
