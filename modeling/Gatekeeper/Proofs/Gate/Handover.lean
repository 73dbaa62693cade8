import Gatekeeper.Proofs.Gate.Conduct

namespace Gatekeeper

open Http (Request Response)

variable {ω : Type}

/-- Whether a module or the resource is called, the ones that a request comes to. -/
def Event.takesRequest (e : Event) : Bool := e.isModuleCall || e.isDispatch

/-- A request goes from hand to hand: each of these deeds is about the request as the one before it
has left it. -/
inductive Hands : Request → List (Deed ω) → Request → Prop
  | nil (r) : Hands r [] r
  | cons {d ds last} (rest : Hands d.visit.draft.request ds last) :
      Hands d.exchange.request (d :: ds) last

/-- What the last of these deeds has left to hold. -/
def keptAfter (h : Custody ω) : List (Deed ω) → Custody ω
  | [] => h
  | d :: ds => keptAfter d.visit.kept ds

theorem Hands.append {q r last : Request} {ds es : List (Deed ω)} (first : Hands q ds r)
    (second : Hands r es last) : Hands q (ds ++ es) last := by
  induction first with
  | nil => exact second
  | cons _ ih => exact .cons (ih second)

namespace Succession

variable {x y : Exchange} {h i : Custody ω} {ds : List (Deed ω)}

theorem hands (succession : Succession x h ds y i) : Hands x.request ds y.request := by
  induction succession with
  | nil => exact .nil _
  | cons _ ih => exact .cons ih

theorem kept (succession : Succession x h ds y i) : i = keptAfter h ds := by
  induction succession with
  | nil => rfl
  | cons _ ih => exact ih

theorem head_exchange (succession : Succession x h ds y i) : ∀ d ∈ ds.head?, d.exchange = x := by
  intro d head
  cases succession with
  | nil => cases head
  | cons _ =>
    cases head
    rfl

end Succession

namespace Gate

variable {g : Gate ω} {c : Chain ω} {t : Ticket} {resource : Resource ω}
variable {s final : Scene ω} {calls : List Event} {ending : Ending Settlement}

theorem Securing.request (securing : g.Securing s calls ending final) :
    final.exchange.request = (g.secure s).state.exchange.request := by
  cases securing with
  | unsettled => rfl
  | delivered => rfl
  | withheld => rfl
  | refused => rw [refuse_apply]

theorem departed_request (s : Scene ω) :
    (g.departed resource s).exchange.request = (g.admitted s).exchange.request.copy := rfl

theorem answered_request {s : Scene ω} (response : Response) :
    (g.answered resource s response).exchange.request = (g.admitted s).exchange.request.copy := rfl

theorem answered_response (s : Scene ω) (response : Response) :
    (g.answered resource s response).exchange.response = response := rfl

theorem Securing.takesRequest {secured : List (Deed ω)}
    (securing : (g.fronting c).Securing s calls ending final)
    (secures : Enacts s.toProceeding (c.secure g.service s.toProceeding) secured) :
    calls.filter Event.takesRequest = secured.map Deed.event := by
  have taken : (Event.calls ((g.fronting c).secure s).journal).filter Event.takesRequest =
      secured.map Deed.event := filter_calls_enacted (fun _ => rfl) secures rfl rfl
  cases securing with
  | unsettled => exact taken
  | delivered => exact taken
  | withheld => exact taken
  | refused =>
    rw [List.filter_append, taken, refuse_apply]
    exact List.append_nil _

theorem Securing.hands {secured : List (Deed ω)}
    (securing : (g.fronting c).Securing s calls ending final)
    (secures : Enacts s.toProceeding (c.secure g.service s.toProceeding) secured) :
    Hands s.exchange.request secured final.exchange.request := by
  have left : ((g.fronting c).secure s).state.exchange =
      (c.secure g.service s.toProceeding).state.exchange :=
    congrArg Proceeding.exchange ((g.fronting c).secure_toProceeding s)
  rw [securing.request, left]
  exact secures.succession.hands

/-- The request that the resource gets is what validation has left of it. -/
theorem Conduct.hands_asked (i : Conduct g c t resource s) :
    Hands s.exchange.request i.asked ((g.fronting c).admitted s).exchange.request := by
  have validated := (g.fronting c).validate_toProceeding s
  have left : ((g.fronting c).admitted s).exchange =
      (c.validate g.service s.toProceeding).state.exchange :=
    congrArg Proceeding.exchange validated
  rw [left]
  exact i.validates.succession.hands

theorem Conduct.served_eq (i : Conduct g c t resource s) :
    (g.fronting c).served resource s =
      resource.handle ((g.fronting c).admitted s).exchange.request
        ⟨((g.fronting c).admitted s).attributes, (keptAfter s.toCustody i.asked).memory⟩ := by
  have validated := (g.fronting c).validate_toProceeding s
  have left : ((g.fronting c).admitted s).toCustody =
      (c.validate g.service s.toProceeding).state.toCustody :=
    congrArg Proceeding.toCustody validated
  rw [← i.validates.succession.kept, ← left]
  rfl

theorem Course.takesRequest (course : (g.fronting c).Course resource s calls ending final)
    (success : (g.fronting c).Authenticates s) (i : Conduct g c t resource s) :
    calls.filter Event.takesRequest =
        i.asked.map Deed.event ++ (g.fronting c).dispatching s :: i.secured.map Deed.event ∧
      Hands ((g.fronting c).admitted s).exchange.request.copy i.secured final.exchange.request ∧
      ∀ d ∈ i.secured.head?,
        ((g.fronting c).served resource s).1 = .settled d.exchange.response := by
  have taken : (Event.calls ((g.fronting c).validate s).journal).filter Event.takesRequest =
      i.asked.map Deed.event := filter_calls_enacted (fun _ => rfl) i.validates rfl rfl
  cases course with
  | unvalidated validation =>
    exact ((g.fronting c).not_authenticates_of_halted validation success).elim
  | refused validation refusal =>
    exact ((g.fronting c).not_authenticates_of_refusal validation refusal success).elim
  | released validation sends =>
    exact ((g.fronting c).not_authenticates_of_send validation sends success).elim
  | denied validation =>
    exact ((g.fronting c).not_authenticates_of_settled validation (by simp) success).elim
  | unanswered _ service =>
    have unsecured : i.secured = [] := by
      apply i.unsecured
      intro response _ served
      rw [service] at served
      cases served
    rw [unsecured, List.filter_append, taken, departed_request]
    refine ⟨rfl, .nil _, ?_⟩
    intro d first
    cases first
  | @answered response secureCalls _ _ _ service securing =>
    have secures := i.secures response success service
    have later := securing.takesRequest secures
    refine ⟨?_, ?_, ?_⟩
    · rw [List.filter_append, taken, List.filter_cons_of_pos rfl, later]
    · rw [← answered_request response]
      exact securing.hands secures
    · intro d first
      rw [service, secures.succession.head_exchange d first, answered_response]

variable (g c resource) in
/-- A request that is dispatched comes to the resource as the modules that were asked have left it,
with all that travels with it. The modules that secure and clean get a copy, with which nothing
travels, and the first of them to secure gets just what the resource answered. -/
theorem process_hands_over (fresh : String) (request : Request) (caller : Caller ω)
    (attributes : Attributes) (sent : Request)
    (dispatched : .dispatched attributes sent ∈
      ((g.fronting c).process fresh resource request caller).journal) :
    ∃ i : Conduct g c (issue fresh request caller) resource (opening fresh request caller),
      ((g.fronting c).process fresh resource request caller).journal.filter Event.takesRequest =
        i.asked.map Deed.event ++
          .dispatched attributes sent :: (i.secured ++ i.cleaned).map Deed.event ∧
      Hands request i.asked sent ∧
      (∃ last, Hands { sent with extensions := {} } (i.secured ++ i.cleaned) last) ∧
      ∀ d ∈ i.secured.head?,
        (resource.handle sent
          ⟨attributes, (keptAfter { memory := caller.memory } i.asked).memory⟩).1 =
          .settled d.exchange.response := by
  let t := issue fresh request caller
  let s := opening fresh request caller
  let journal := ((g.fronting c).process fresh resource request caller).journal
  obtain ⟨success, dispatch⟩ := ((g.fronting c).mem_dispatched_iff resource).mp dispatched
  obtain ⟨rfl, rfl⟩ : attributes = ((g.fronting c).admitted s).attributes ∧
      sent = ((g.fronting c).admitted s).exchange.request := by
    cases dispatch
    exact ⟨rfl, rfl⟩
  obtain ⟨i⟩ := g.exists_conduct c t resource s
  obtain ⟨calls, hands, answer⟩ :=
    ((g.fronting c).authenticate_course t resource s).takesRequest success i
  obtain ⟨_, _, _, -, whole, -, -⟩ := (g.fronting c).process_reports resource fresh request caller
  have cleaned : (Event.calls ((g.fronting c).cleanup t resource s).journal).filter
      Event.takesRequest = i.cleaned.map Deed.event :=
    filter_calls_enacted (fun _ => rfl) i.cleans rfl rfl
  have uncalled : ∀ e : Event, e.isCall = false → e.takesRequest = false := by
    intro e h
    cases e <;> first | rfl | cases h
  have taken : journal.filter Event.takesRequest =
      (i.asked.map Deed.event ++ (g.fronting c).dispatching s :: i.secured.map Deed.event) ++
        i.cleaned.map Deed.event := by
    rw [← Event.filter_calls uncalled, whole, List.filter_append, List.filter_append, calls,
      cleaned]
    exact List.append_nil _
  have handsOn := hands.append i.cleans.succession.hands
  refine ⟨i, ?_, i.hands_asked, ⟨_, handsOn⟩, ?_⟩
  · rw [List.map_append, ← List.cons_append, ← List.append_assoc]
    exact taken
  · intro d first
    rw [← answer d first, i.served_eq]
    rfl

/-- A module that lets every request in, marks it and prepares a response, and that takes the mark
away when it secures. -/
def marking : AuthModule ω where
  id := "marking"
  validate _ x held :=
    { result := .settled (.ok (some .success))
      draft := { x.toDraft with
        request := { x.request with
          headers := x.request.headers ++ [("mark", [1])]
          extensions := { values := [("mark", "1")] } }
        response := .bare .unauthorized }
      kept := held }
  secure _ x memory :=
    { result := .settled (.ok (some .sendSuccess))
      draft := x.toDraft.editRequest ({ · with headers := [] })
      kept := memory }
  clean x held := { result := .settled (.ok ()), draft := x.toDraft, kept := held }

/-- The resource gets the mark and what travels with it, the securing module only the mark. -/
theorem process_hands_over_of_marking :
    let c : Chain Audit.Ledger := { modules := [marking] }
    let g : Gate Audit.Ledger :=
      { sink := .recording
        responder := Negotiator.toResponder {}
        authenticator := Chain.toAuthenticator {} }
    let resource : Resource Audit.Ledger := ⟨fun _ c => (.settled {}, c)⟩
    let request : Request := { headers := [("mark", [0])] }
    let sent : Request :=
      { headers := [("mark", [0]), ("mark", [1])], extensions := { values := [("mark", "1")] } }
    let copy : Request := { headers := [("mark", [0]), ("mark", [1])] }
    let attributes : Attributes := { requestId := some "1", authContext := some ["marking"] }
    let caller : Caller Audit.Ledger := ⟨{}, {}⟩
    let journal := ((g.fronting c).process "1" resource request caller).journal
    .dispatched attributes sent ∈ journal ∧
    ∃ i : Conduct g c (issue "1" request caller) resource (opening "1" request caller),
      journal.filter Event.takesRequest =
        i.asked.map Deed.event ++
          .dispatched attributes sent :: (i.secured ++ i.cleaned).map Deed.event ∧
      Hands request i.asked sent ∧ (∃ last, Hands copy (i.secured ++ i.cleaned) last) ∧
      ∀ d ∈ i.secured.head?, d.exchange.response = {} := by
  intro c g resource request sent copy attributes caller journal
  have dispatched : .dispatched attributes sent ∈ journal :=
    ((g.fronting c).mem_dispatched_iff resource).mpr ⟨rfl, rfl⟩
  obtain ⟨i, taken, before, after, answer⟩ :=
    process_hands_over g c resource "1" request caller attributes sent dispatched
  refine ⟨dispatched, i, taken, before, after, ?_⟩
  intro d first
  have answered : Ending.settled ({} : Response) = .settled d.exchange.response := answer d first
  exact (Ending.settled.inj answered).symm

end Gate

end Gatekeeper
