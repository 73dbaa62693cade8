import Gatekeeper.Proofs.Chain.Securing
import Gatekeeper.Proofs.Gate.Dispatch
import Gatekeeper.Proofs.Gate.Principal
import Mathlib.Data.List.Basic

namespace Gatekeeper

open Http (Request)

variable {ω α : Type}

def Event.isModuleCall : Event → Bool
  | .called _ _ _ => true
  | _ => false

def Deed.event (d : Deed ω) : Event := .ofActivity d.call

theorem Deed.filter_events {f : Event → Bool} {ds : List (Deed ω)}
    (chosen : ∀ d ∈ ds, f d.event = true) : (ds.map event).filter f = ds.map event := by
  rw [List.filter_eq_self]
  intro e made
  obtain ⟨d, done, rfl⟩ := List.mem_map.mp made
  exact chosen d done

/-- On the way from one scene to the other the modules are called for these deeds, and the trail
grows by their entries. -/
structure Scene.Tells (s final : Scene ω) (calls : List Event) (ds : List (Deed ω)) : Prop where
  calls : calls.filter Event.isModuleCall = ds.map Deed.event
  trail : final.exchange.trail = s.exchange.trail ++ ds.flatMap Deed.entries

namespace Scene.Tells

variable {s t final : Scene ω} {i j : List Event} {ds es : List (Deed ω)}

theorem append (first : s.Tells t i ds) (second : t.Tells final j es) :
    s.Tells final (i ++ j) (ds ++ es) where
  calls := by rw [List.filter_append, first.calls, second.calls, List.map_append]
  trail := by rw [second.trail, first.trail, List.flatMap_append, List.append_assoc]

theorem append_idle (first : s.Tells t i ds) (idle : t.Tells final j []) :
    s.Tells final (i ++ j) ds := by
  have whole := first.append idle
  rwa [List.append_nil] at whole

end Scene.Tells

namespace Gate

variable (g : Gate ω) (c : Chain ω) (t : Ticket) (resource : Resource ω)

theorem calls_perform {event : Scene ω → Event} {d : Duty ω (Except AuthError α)} {s : Scene ω}
    {ds : List (Deed ω)} (enacts : Enacts s.toProceeding (d s.toProceeding) ds)
    (call : (event s).isCall = true) :
    Event.calls (perform event d s).journal = event s :: ds.map Deed.event := by
  have modules : Event.isCall ∘ Event.ofActivity = Activity.isCall := by
    funext a
    cases a <;> rfl
  rw [perform_apply, Event.calls_cons call, Event.calls, List.filter_map, modules, enacts.calls,
    List.map_map]
  rfl

theorem filter_calls_enacted {f : Event → Bool} (chosen : ∀ d : Deed ω, f d.event = true)
    {event : Scene ω → Event} {d : Duty ω (Except AuthError α)} {s : Scene ω} {ds : List (Deed ω)}
    (enacts : Enacts s.toProceeding (d s.toProceeding) ds) (call : (event s).isCall = true)
    (own : f (event s) = false) :
    (Event.calls (perform event d s).journal).filter f = ds.map Deed.event := by
  have aside : ¬ f (event s) = true := by simp [own]
  rw [calls_perform enacts call, List.filter_cons_of_neg aside]
  exact Deed.filter_events fun d _ => chosen d

theorem perform_tells {event : Scene ω → Event} {d : Duty ω (Except AuthError α)} {s : Scene ω}
    {ds : List (Deed ω)} (enacts : Enacts s.toProceeding (d s.toProceeding) ds)
    (call : (event s).isCall = true) (own : (event s).isModuleCall = false) :
    s.Tells (perform event d s).state (Event.calls (perform event d s).journal) ds where
  calls := filter_calls_enacted (fun _ => rfl) enacts call own
  trail := by
    rw [perform_apply]
    exact enacts.succession.trail

theorem refuse_tells (e : AuthError) (s : Scene ω) :
    s.Tells (g.refuse e s).state (g.refuse e s).journal [] := by
  rw [refuse_apply]
  exact ⟨rfl, (List.append_nil _).symm⟩

/-- The deeds of the modules in a run, phase after phase. There is no securing unless the resource
has answered. -/
structure Conduct (s : Scene ω) where
  asked : List (Deed ω)
  secured : List (Deed ω)
  cleaned : List (Deed ω)
  validates : Enacts s.toProceeding (c.validate g.service s.toProceeding) asked
  secures : ∀ response, (g.fronting c).Authenticates s →
    ((g.fronting c).served resource s).1 = .settled response →
    let p := ((g.fronting c).answered resource s response).toProceeding
    Enacts p (c.secure g.service p) secured
  unsecured : (∀ response, (g.fronting c).Authenticates s →
    ((g.fronting c).served resource s).1 ≠ .settled response) → secured = []
  cleans :
    let p := ((g.fronting c).authenticate t resource s).state.toProceeding
    Enacts p (c.clean p) cleaned
  asked_candidates : ∀ d ∈ asked, d.occasion = .validation g.service ∧ d.IsOf 0 c.candidates
  secured_candidates : ∀ d ∈ secured, d.occasion = .securing g.service ∧ d.IsOf 0 c.candidates
  cleaned_candidates : ∀ d ∈ cleaned, d.occasion = .cleaning ∧ d.IsOf 0 c.candidates

/-- There is a conduct to every run. -/
theorem exists_conduct (s : Scene ω) : Nonempty (Conduct g c t resource s) := by
  obtain ⟨asked, validates, asks⟩ := c.enacts_validate g.service s.toProceeding
  obtain ⟨cleaned, cleans, cleaning⟩ :=
    c.enacts_clean ((g.fronting c).authenticate t resource s).state.toProceeding
  by_cases answers : ∃ response, (g.fronting c).Authenticates s ∧
      ((g.fronting c).served resource s).1 = .settled response
  · obtain ⟨response, success, service⟩ := answers
    obtain ⟨secured, secures, securing⟩ :=
      c.enacts_secure g.service ((g.fronting c).answered resource s response).toProceeding
    constructor
    refine ⟨asked, secured, cleaned, validates, ?_, ?_, cleans, asks.candidates,
      securing.candidates, cleaning⟩
    · intro other _ served
      rw [service] at served
      cases served
      exact secures
    · intro unanswered
      exact (unanswered response success service).elim
  · constructor
    refine ⟨asked, [], cleaned, validates, ?_, fun _ => rfl, cleans, asks.candidates, by simp,
      cleaning⟩
    intro response success service
    exact (answers ⟨response, success, service⟩).elim

section

variable {g c t resource}
variable {s final : Scene ω} {calls : List Event} {ending : Ending Settlement}

theorem validate_tells {asked : List (Deed ω)}
    (validates : Enacts s.toProceeding (c.validate g.service s.toProceeding) asked) :
    s.Tells ((g.fronting c).validate s).state (Event.calls ((g.fronting c).validate s).journal)
      asked :=
  perform_tells validates rfl rfl

theorem Securing.tells {secured : List (Deed ω)}
    (securing : (g.fronting c).Securing s calls ending final)
    (secures : Enacts s.toProceeding (c.secure g.service s.toProceeding) secured) :
    s.Tells final calls secured := by
  have told : s.Tells ((g.fronting c).secure s).state
      (Event.calls ((g.fronting c).secure s).journal) secured := perform_tells secures rfl rfl
  cases securing with
  | unsettled => exact told
  | delivered => exact ⟨told.calls, told.trail⟩
  | withheld => exact told
  | refused => exact told.append_idle (refuse_tells _ _ _)

/-- Up to its cleaning a run tells of the deeds of validation and securing. -/
theorem Course.tells (course : (g.fronting c).Course resource s calls ending final)
    (i : Conduct g c t resource s) : s.Tells final calls (i.asked ++ i.secured) := by
  have told := validate_tells i.validates
  have undispatched (denied : ¬ (g.fronting c).Authenticates s) :
      i.asked ++ i.secured = i.asked := by
    rw [i.unsecured fun _ success => (denied success).elim, List.append_nil]
  cases course with
  | unvalidated validation =>
    have denied := (g.fronting c).not_authenticates_of_halted validation
    rw [undispatched denied]
    exact told
  | refused validation refusal =>
    have denied := (g.fronting c).not_authenticates_of_refusal validation refusal
    rw [undispatched denied]
    exact told.append_idle (refuse_tells _ _ _)
  | released validation sends =>
    have denied := (g.fronting c).not_authenticates_of_send validation sends
    rw [undispatched denied]
    exact ⟨told.calls, told.trail⟩
  | denied validation =>
    have denied := (g.fronting c).not_authenticates_of_settled validation (by simp)
    rw [undispatched denied]
    exact told
  | unanswered validation service =>
    have unsecured : i.secured = [] := by
      apply i.unsecured
      intro response _ served
      rw [service] at served
      cases served
    rw [unsecured, List.append_nil]
    exact told.append_idle ⟨rfl, (List.append_nil _).symm⟩
  | @answered response _ _ _ validation service securing =>
    have secured := securing.tells (i.secures response validation service)
    exact told.append ⟨secured.calls, secured.trail⟩

variable {cleaned : List (Deed ω)}
  (cleans : Enacts ((g.fronting c).authenticate t resource s).state.toProceeding
    (c.clean ((g.fronting c).authenticate t resource s).state.toProceeding) cleaned)

include cleans

theorem cleanup_calls :
    Event.calls ((g.fronting c).cleanup t resource s).journal =
      .cleaning ((g.fronting c).authenticate t resource s).state.exchange
        ((g.fronting c).authenticate t resource s).state.client :: cleaned.map Deed.event :=
  calls_perform cleans rfl

/-- Of cleaning the trail holds only what the modules noted in it. -/
theorem cleanup_trail (cleaning : ∀ d ∈ cleaned, d.occasion = .cleaning) :
    ((g.fronting c).cleanup t resource s).state.exchange.trail =
      ((g.fronting c).authenticate t resource s).state.exchange.trail ++
        cleaned.flatMap (·.visit.notes) := by
  have told : Scene.Tells _ ((g.fronting c).cleanup t resource s).state
      (Event.calls ((g.fronting c).cleanup t resource s).journal) cleaned :=
    perform_tells cleans rfl rfl
  have unrecorded : cleaned.flatMap Deed.entries = cleaned.flatMap (·.visit.notes) :=
    List.flatMap_congr fun d done => d.entries_of_cleaning (cleaning d done)
  rw [told.trail, unrecorded]

end

/-- The modules are called for the deeds of the conduct, phase after phase. -/
theorem Conduct.moduleCalls {fresh : String} {request : Request} {caller : Caller ω}
    (i : Conduct g c (issue fresh request caller) resource (opening fresh request caller)) :
    ((g.fronting c).process fresh resource request caller).journal.filter Event.isModuleCall =
      (i.asked ++ i.secured ++ i.cleaned).map Deed.event := by
  let t := issue fresh request caller
  let s := opening fresh request caller
  obtain ⟨_, _, _, -, calls, -, -⟩ := (g.fronting c).process_reports resource fresh request caller
  have told := ((g.fronting c).authenticate_course t resource s).tells i
  have cleaned : (Event.calls ((g.fronting c).cleanup t resource s).journal).filter
      Event.isModuleCall = i.cleaned.map Deed.event := by
    rw [cleanup_calls i.cleans]
    exact Deed.filter_events fun _ _ => rfl
  have uncalled : ∀ e : Event, e.isCall = false → e.isModuleCall = false := by
    intro e h
    cases e <;> first | rfl | cases h
  rw [← Event.filter_calls uncalled, calls, List.filter_append, List.filter_append, told.calls,
    cleaned, ← List.map_append]
  exact List.append_nil _

/-- The audit of a run, however it ends, bears the id of the request and its method and path as it
came in, and holds the entries of the deeds of the run, in order, and no others. The deeds are what
the modules are called for; of cleaning there is only what the modules note themselves. -/
theorem process_audits_conduct (fresh : String) (request : Request) (caller : Caller ω) :
    let journal := ((g.fronting c).process fresh resource request caller).journal
    ∃ (i : Conduct g c (issue fresh request caller) resource (opening fresh request caller))
      (event : Audit.Event),
      journal.filter Event.isAudit = [.audited event] ∧
      journal.filter Event.isModuleCall = (i.asked ++ i.secured ++ i.cleaned).map Deed.event ∧
      event.requestId = caller.attributes.requestId.getD fresh ∧
      event.method = some request.method ∧ event.path = some request.uri.path ∧
      (∀ x ∈ request.uri.path.toList, Http.Uri.endsPath x = false) ∧
      event.entries =
        (i.asked ++ i.secured).flatMap Deed.entries ++ i.cleaned.flatMap (·.visit.notes) := by
  intro journal
  let t := issue fresh request caller
  let s := opening fresh request caller
  obtain ⟨i⟩ := g.exists_conduct c t resource s
  obtain ⟨principal, outcome, _, -, calls, -, -⟩ :=
    (g.fronting c).process_reports resource fresh request caller
  have told := ((g.fronting c).authenticate_course t resource s).tells i
  have start : s.exchange.trail = [] := rfl
  have occasions : ∀ d ∈ i.cleaned, d.occasion = .cleaning := by
    intro d done
    exact (i.cleaned_candidates d done).1
  have trail := cleanup_trail i.cleans occasions
  rw [told.trail, start, List.nil_append] at trail
  exact ⟨i, ((g.fronting c).cleanup t resource s).state.report t principal outcome,
    (g.fronting c).audit_of_calls resource calls, i.moduleCalls, rfl, rfl, rfl,
    fun _ => request.uri.not_endsPath_of_mem_path, trail⟩

end Gate

end Gatekeeper
