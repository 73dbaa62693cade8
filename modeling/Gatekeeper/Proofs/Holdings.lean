import Gatekeeper.Proofs.Gate.Naming
import Mathlib.Data.List.DropRight
import Mathlib.Data.List.Nodup

namespace Gatekeeper.Subject

inductive Change where
  | addPrincipal (p : Principal)
  | addPublic (credential : String)
  | addPrivate (credential : String)
  | clear
deriving DecidableEq

namespace Change

def make (s : Subject) : Change → Subject
  | addPrincipal p => s.addPrincipal p
  | addPublic credential => s.addPublic credential
  | addPrivate credential => s.addPrivate credential
  | clear => s.clear

def public? : Change → Option String
  | addPublic credential => some credential
  | _ => none

def private? : Change → Option String
  | addPrivate credential => some credential
  | _ => none

end Change

/-- The subject that comes of these changes to a new one. -/
def after (changes : List Change) : Subject := changes.foldl Change.make {}

/-- The changes that come after the last clearing; all of them if there is none. -/
def sinceCleared (changes : List Change) : List Change := changes.rtakeWhile (· ≠ .clear)

/-- The subject holds what these changes add: each of the principals once, in the order in which
they are first added, and every one of the credentials. -/
structure Holds (s : Subject) (added : List Change) : Prop where
  principal : ∀ p, p ∈ s.principals ↔ .addPrincipal p ∈ added
  once : s.principals.Nodup
  order : s.principals.Pairwise fun p q =>
    added.idxOf (.addPrincipal p) < added.idxOf (.addPrincipal q)
  publics : s.publicCredentials = added.filterMap Change.public?
  privates : s.privateCredentials.map (·.expose) = added.filterMap Change.private?

theorem filterMap_concat_of_none {f : Change → Option String} {c : Change} (other : f c = none)
    (added : List Change) : (added ++ [c]).filterMap f = added.filterMap f := by
  rw [List.filterMap_append, List.filterMap_cons_none other, List.filterMap_nil, List.append_nil]

namespace Holds

variable {s : Subject} {added : List Change}

theorem new : Holds {} [] where
  principal p := by simp
  once := .nil
  order := .nil
  publics := rfl
  privates := rfl

/-- What is there keeps its order, whatever is added after it. -/
theorem order_concat (holds : s.Holds added) (c : Change) :
    s.principals.Pairwise fun p q =>
      (added ++ [c]).idxOf (.addPrincipal p) < (added ++ [c]).idxOf (.addPrincipal q) := by
  refine holds.order.imp_of_mem ?_
  intro p q left right before
  have added_p := (holds.principal p).mp left
  have added_q := (holds.principal q).mp right
  rw [List.idxOf_append_of_mem added_p, List.idxOf_append_of_mem added_q]
  exact before

/-- A new one is first added by the last change, behind all that the others came from. -/
theorem order_new (holds : s.Holds added) {p : Principal} (new : p ∉ s.principals) :
    (s.principals ++ [p]).Pairwise fun q r =>
      (added ++ [Change.addPrincipal p]).idxOf (.addPrincipal q) <
        (added ++ [Change.addPrincipal p]).idxOf (.addPrincipal r) := by
  have unseen : .addPrincipal p ∉ added := fun seen => new ((holds.principal p).mpr seen)
  refine List.pairwise_append.mpr ⟨holds.order_concat _, List.pairwise_singleton _ _, ?_⟩
  intro q earlier r last
  obtain rfl := List.mem_singleton.mp last
  have seen := (holds.principal q).mp earlier
  rw [List.idxOf_append_of_mem seen, List.idxOf_append_of_notMem unseen, List.idxOf_cons_self,
    Nat.add_zero]
  exact List.idxOf_lt_length_of_mem seen

theorem addPrincipal (holds : s.Holds added) (p : Principal) :
    (s.addPrincipal p).Holds (added ++ [.addPrincipal p]) := by
  have member (q : Principal) : q ∈ (s.addPrincipal p).principals ↔
      .addPrincipal q ∈ added ++ [Change.addPrincipal p] := by
    rw [mem_addPrincipal, holds.principal]
    simp
  have publics : s.publicCredentials =
      (added ++ [Change.addPrincipal p]).filterMap Change.public? := by
    rw [filterMap_concat_of_none rfl, holds.publics]
  have privates : s.privateCredentials.map (·.expose) =
      (added ++ [Change.addPrincipal p]).filterMap Change.private? := by
    rw [filterMap_concat_of_none rfl, holds.privates]
  by_cases known : p ∈ s.principals
  · rw [addPrincipal_of_mem known] at member ⊢
    exact ⟨member, holds.once, holds.order_concat _, publics, privates⟩
  · rw [addPrincipal_of_notMem known] at member ⊢
    have once : (s.principals ++ [p]).Nodup := by
      rw [← List.concat_eq_append]
      exact holds.once.concat known
    exact ⟨member, once, holds.order_new known, publics, privates⟩

theorem addPublic (holds : s.Holds added) (credential : String) :
    (s.addPublic credential).Holds (added ++ [.addPublic credential]) where
  principal p := (holds.principal p).trans (by simp)
  once := holds.once
  order := holds.order_concat _
  publics := by
    rw [List.filterMap_append, ← holds.publics]
    rfl
  privates := by
    rw [filterMap_concat_of_none rfl, ← holds.privates]
    rfl

theorem addPrivate (holds : s.Holds added) (credential : String) :
    (s.addPrivate credential).Holds (added ++ [.addPrivate credential]) where
  principal p := (holds.principal p).trans (by simp)
  once := holds.once
  order := holds.order_concat _
  publics := by
    rw [filterMap_concat_of_none rfl, ← holds.publics]
    rfl
  privates := by
    rw [List.filterMap_append, ← holds.privates, Subject.addPrivate, List.map_append]
    rfl

theorem make (holds : s.Holds added) {c : Change} (adds : c ≠ .clear) :
    (c.make s).Holds (added ++ [c]) := by
  cases c with
  | addPrincipal p => exact holds.addPrincipal p
  | addPublic credential => exact holds.addPublic credential
  | addPrivate credential => exact holds.addPrivate credential
  | clear => exact absurd rfl adds

theorem isEmpty_iff (holds : s.Holds added) (adds : .clear ∉ added) :
    s.isEmpty ↔ added = [] := by
  constructor
  · intro empty
    obtain ⟨⟨noPrincipals, noPublics⟩, noPrivates⟩ :
        (s.principals = [] ∧ s.publicCredentials = []) ∧ s.privateCredentials = [] := by
      simpa [isEmpty] using empty
    apply List.eq_nil_iff_forall_not_mem.mpr
    intro c member
    cases c with
    | addPrincipal p =>
      have held := (holds.principal p).mpr member
      rw [noPrincipals] at held
      cases held
    | addPublic credential =>
      have held : credential ∈ added.filterMap Change.public? :=
        List.mem_filterMap.mpr ⟨_, member, rfl⟩
      rw [← holds.publics, noPublics] at held
      cases held
    | addPrivate credential =>
      have held : credential ∈ added.filterMap Change.private? :=
        List.mem_filterMap.mpr ⟨_, member, rfl⟩
      rw [← holds.privates, noPrivates] at held
      cases held
    | clear => exact adds member
  · rintro rfl
    have principals : s.principals = [] := by
      apply List.eq_nil_iff_forall_not_mem.mpr
      intro p held
      have member := (holds.principal p).mp held
      cases member
    have privates : s.privateCredentials = [] := List.map_eq_nil_iff.mp holds.privates
    rw [isEmpty, principals, holds.publics, privates]
    rfl

end Holds

theorem after_concat (changes : List Change) (c : Change) :
    after (changes ++ [c]) = c.make (after changes) := by
  unfold after
  rw [List.foldl_append, List.foldl_cons, List.foldl_nil]

theorem clear_notMem_sinceCleared (changes : List Change) : .clear ∉ sinceCleared changes := by
  intro member
  have other := List.mem_rtakeWhile_imp member
  simp at other

theorem after_holds (changes : List Change) : (after changes).Holds (sinceCleared changes) := by
  induction changes using List.reverseRecOn with
  | nil => exact .new
  | append_singleton changes c ih =>
    rw [after_concat]
    unfold sinceCleared
    by_cases clears : c = .clear
    · rw [List.rtakeWhile_concat_neg _ _ _ (by simpa using clears), clears]
      exact .new
    · rw [List.rtakeWhile_concat_pos _ _ _ (by simpa using clears)]
      exact ih.make clears

theorem principals_prefix_make (s : Subject) {c : Change} (adds : c ≠ .clear) :
    s.principals <+: (c.make s).principals := by
  cases c with
  | addPrincipal p =>
    show s.principals <+: (s.addPrincipal p).principals
    by_cases known : p ∈ s.principals
    · simp [addPrincipal_of_mem known]
    · simp [addPrincipal_of_notMem known]
  | addPublic | addPrivate => exact List.prefix_rfl
  | clear => exact absurd rfl adds

theorem principals_prefix_after (changes : List Change) {later : List Change}
    (adds : .clear ∉ later) :
    (after changes).principals <+: (after (changes ++ later)).principals := by
  induction later using List.reverseRecOn with
  | nil => simp
  | append_singleton later c ih =>
    obtain ⟨before, last⟩ : .clear ∉ later ∧ Change.clear ≠ c := by simpa using adds
    have made := principals_prefix_make (after (changes ++ later)) last.symm
    rw [← List.append_assoc, after_concat]
    exact (ih before).trans made

/-- After any changes a subject holds what they added since it was last cleared, and is empty just
if that is nothing. Once there is a principal, whatever else is added leaves the first one as it is,
and with it the principal that a request resolves to. -/
theorem after_holds_added (changes : List Change) :
    let s := after changes
    s.Holds (sinceCleared changes) ∧
    (s.isEmpty ↔ sinceCleared changes = []) ∧
    ∀ later, .clear ∉ later → s.principals ≠ [] →
      let s' := after (changes ++ later)
      s'.principals.head? = s.principals.head? ∧
      ∀ (ω : Type) (p : Proceeding ω),
        { p with client := s' }.resolvePrincipal = { p with client := s }.resolvePrincipal := by
  intro s
  have holds := after_holds changes
  have empty := holds.isEmpty_iff (clear_notMem_sinceCleared changes)
  refine ⟨holds, empty, ?_⟩
  intro later adds named s'
  have first : s'.principals.head? = s.principals.head? := by
    obtain ⟨others, grown⟩ := principals_prefix_after changes adds
    rw [← grown, List.head?_append_of_ne_nil _ named]
  have name : s'.firstName? = s.firstName? := congrArg (Option.map Principal.name) first
  refine ⟨first, ?_⟩
  intro ω p
  rw [Proceeding.resolvePrincipal_eq, Proceeding.resolvePrincipal_eq, name]

/-- One that was there before the clearing comes back as the last; one that is added again stays
where it is. -/
theorem after_holds_added_of_returning :
    let changes : List Change :=
      [.addPrincipal ⟨"alice"⟩, .addPrivate "1234", .clear, .addPrincipal ⟨"bob"⟩,
        .addPrincipal ⟨"carol"⟩, .addPrivate "9876", .addPrivate "9876", .addPrincipal ⟨"bob"⟩]
    let later : List Change := [.addPrincipal ⟨"alice"⟩, .addPublic "key"]
    (after changes).principals = [⟨"bob"⟩, ⟨"carol"⟩] ∧
      (after changes).privateCredentials.map (·.expose) = ["9876", "9876"] ∧
      (after (changes ++ later)).principals = [⟨"bob"⟩, ⟨"carol"⟩, ⟨"alice"⟩] ∧
      (after (changes ++ later)).principals.head? = some ⟨"bob"⟩ := by
  intro changes later
  obtain ⟨holds, -, stays⟩ := after_holds_added changes
  obtain ⟨first, -⟩ := stays later (by decide) (by decide)
  exact ⟨by decide, holds.privates, by decide, first⟩

end Gatekeeper.Subject
