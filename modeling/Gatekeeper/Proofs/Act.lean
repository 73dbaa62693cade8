import Gatekeeper.Act

namespace Gatekeeper

variable {σ τ ε δ α β : Type}

def Run.after (j : List ε) (r : Run σ ε α) : Run σ ε α := { r with journal := j ++ r.journal }

namespace Run

@[simp] theorem after_ending (j : List ε) (r : Run σ ε α) : (r.after j).ending = r.ending := rfl

@[simp] theorem after_state (j : List ε) (r : Run σ ε α) : (r.after j).state = r.state := rfl

@[simp] theorem after_journal (j : List ε) (r : Run σ ε α) :
    (r.after j).journal = j ++ r.journal := rfl

@[simp] theorem after_after (i j : List ε) (r : Run σ ε α) :
    (r.after j).after i = r.after (i ++ j) := by
  simp [after]

end Run

namespace Ending

/-- How a guarded call ends: a crash has become an answer. -/
def contained : Ending (Except AuthError α) → Ending (Except AuthError α)
  | halted (.crashed c) => settled (.error (.ofCrash c))
  | e => e

theorem contained_eq_settled_ok_iff {e : Ending (Except AuthError α)} {a : α} :
    e.contained = settled (.ok a) ↔ e = settled (.ok a) := by
  cases e with
  | settled r => exact Iff.rfl
  | halted h => cases h <;> simp [contained]

@[simp] theorem contained_contained (e : Ending (Except AuthError α)) :
    e.contained.contained = e.contained := by
  cases e with
  | settled a => rfl
  | halted h => cases h <;> rfl

/-- Behind the guard only waiting does not settle. -/
theorem contained_settles {e : Ending (Except AuthError α)} (settles : e ≠ halted .pending) :
    ∃ a, e.contained = settled a := by
  match e with
  | .settled a => exact ⟨a, rfl⟩
  | .halted (.crashed c) => exact ⟨_, rfl⟩
  | .halted .pending => exact (settles rfl).elim

theorem contained_ne_crashed (e : Ending (Except AuthError α)) (c : Crash) :
    e.contained ≠ halted (.crashed c) := by
  cases e with
  | settled a => exact nofun
  | halted h => cases h <;> exact nofun

end Ending

namespace Act

theorem guarded_apply (x : Act σ ε (Except AuthError α)) (s : σ) :
    x.guarded s = { x s with ending := (x s).ending.contained } := by
  unfold guarded
  split
  · next h =>
    rw [h]
    rfl
  · next h =>
    have same : (x s).ending.contained = (x s).ending := by
      unfold Ending.contained
      split
      · next c hc => exact absurd hc (h c)
      · rfl
    rw [same]

theorem settled_bind {x : Act σ ε α} {s : σ} {a : α} (h : (x s).ending = .settled a)
    (f : α → Act σ ε β) : (x >>= f) s = (f a (x s).state).after (x s).journal :=
  bind_of_settled h f

theorem bind_settles {x : Act σ ε α} {f : α → Act σ ε β} {s : σ} {b : β}
    (h : ((x >>= f) s).ending = .settled b) :
    ∃ a, (x s).ending = .settled a ∧ (f a (x s).state).ending = .settled b := by
  cases ending : (x s).ending with
  | settled a =>
    rw [settled_bind ending] at h
    exact ⟨a, rfl, h⟩
  | halted k =>
    rw [bind_of_halted ending] at h
    cases h

/-- What an act notes stays noted, and comes first. -/
theorem journal_prefix_bind (x : Act σ ε α) (f : α → Act σ ε β) (s : σ) :
    (x s).journal <+: ((x >>= f) s).journal := by
  cases h : (x s).ending with
  | halted k =>
    have journal : (x s).journal ++ [] = ((x >>= f) s).journal := by
      rw [bind_of_halted h, List.append_nil]
    exact ⟨[], journal⟩
  | settled a =>
    rw [settled_bind h, Run.after_journal]
    exact List.prefix_append _ _

/-- Nothing comes after an act when what follows only repeats its answer. -/
theorem bind_of_idle {x : Act σ ε α} {f : α → Act σ ε α} {s : σ}
    (idle : ∀ a, (x s).ending = .settled a → f a = pure a) : (x >>= f) s = x s := by
  cases ending : (x s).ending with
  | halted k => rw [bind_of_halted ending, ← ending]
  | settled a =>
    rw [settled_bind ending, idle a ending, pure_apply, ← ending, Run.after,
      List.append_nil]

theorem attempt_bind (x : Act σ ε α) (f : Ending α → Act σ ε β) (s : σ) :
    (x.attempt >>= f) s = (f (x s).ending (x s).state).after (x s).journal := rfl

@[simp] theorem get_bind (f : σ → Act σ ε α) (s : σ) : (get >>= f) s = f s s := rfl

@[simp] theorem emit_bind (e : ε) (f : Unit → Act σ ε α) (s : σ) :
    (emit e >>= f) s = (f () s).after [e] := rfl

/-- The act leaves this part of the state alone, however it ends. -/
def Keeps (part : σ → τ) (x : Act σ ε α) : Prop := ∀ s, part (x s).state = part s

namespace Keeps

variable {part : σ → τ}

theorem pure (a : α) : Keeps part (pure a : Act σ ε α) := fun _ => rfl

theorem get : Keeps part (get : Act σ ε σ) := fun _ => rfl

theorem emit (e : ε) : Keeps part (emit e) := fun _ => rfl

theorem bind {x : Act σ ε α} {f : α → Act σ ε β} (first : Keeps part x)
    (next : ∀ a, Keeps part (f a)) : Keeps part (x >>= f) := by
  intro s
  have kept := first s
  cases h : (x s).ending with
  | halted k =>
    rw [bind_of_halted h]
    exact kept
  | settled a =>
    have keptOn := next a (x s).state
    rw [settled_bind h, Run.after_state, keptOn, kept]

theorem guarded {x : Act σ ε (Except AuthError α)} (h : Keeps part x) : Keeps part x.guarded := by
  intro s
  rw [guarded_apply]
  exact h s

end Keeps

/-- From where `holds` the act comes to where it holds again, and notes nothing on the way but what
`may` be noted. -/
def Upholds (holds : σ → Prop) (may : ε → Prop) (x : Act σ ε α) : Prop :=
  ∀ s, holds s → holds (x s).state ∧ ∀ e ∈ (x s).journal, may e

namespace Upholds

variable {holds : σ → Prop} {may : ε → Prop}

theorem pure (a : α) : Upholds holds may (pure a : Act σ ε α) := fun _ h => ⟨h, nofun⟩

theorem ofEnding (e : Ending α) : Upholds holds may (ofEnding e : Act σ ε α) :=
  fun _ h => ⟨h, nofun⟩

theorem emit {e : ε} (allowed : may e) : Upholds holds may (emit e) := by
  intro s h
  have journal : ∀ noted ∈ [e], may noted := by
    intro noted member
    rw [List.mem_singleton.mp member]
    exact allowed
  exact ⟨h, journal⟩

theorem modify {f : σ → σ} (again : ∀ s, holds s → holds (f s)) :
    Upholds holds may (modify f : Act σ ε Unit) := by
  intro s h
  exact ⟨again s h, nofun⟩

/-- What follows may go by the state that it finds. -/
theorem get_bind {f : σ → Act σ ε α} (next : ∀ s, holds s → Upholds holds may (f s)) :
    Upholds holds may (get >>= f) := by
  intro s h
  have rest := next s h
  exact rest s h

theorem bind {x : Act σ ε α} {f : α → Act σ ε β} (first : Upholds holds may x)
    (next : ∀ a, Upholds holds may (f a)) : Upholds holds may (x >>= f) := by
  intro s h
  obtain ⟨state, journal⟩ := first s h
  cases ending : (x s).ending with
  | halted k =>
    rw [bind_of_halted ending]
    exact ⟨state, journal⟩
  | settled a =>
    obtain ⟨state', journal'⟩ := next a (x s).state state
    rw [settled_bind ending]
    refine ⟨state', ?_⟩
    intro e member
    rcases List.mem_append.mp member with earlier | later
    · exact journal e earlier
    · exact journal' e later

theorem seq {x : Act σ ε α} {y : Act σ ε β} (first : Upholds holds may x)
    (next : Upholds holds may y) : Upholds holds may (x >>= fun _ => y) := by
  refine first.bind ?_
  intro _
  exact next

theorem guarded {x : Act σ ε (Except AuthError α)} (h : Upholds holds may x) :
    Upholds holds may x.guarded := by
  intro s here
  rw [guarded_apply]
  exact h s here

theorem attempt {x : Act σ ε α} (h : Upholds holds may x) : Upholds holds may x.attempt := h

theorem imp {may' : ε → Prop} {x : Act σ ε α} (h : Upholds holds may x)
    (weaker : ∀ e, may e → may' e) : Upholds holds may' x := by
  intro s here
  obtain ⟨state, journal⟩ := h s here
  refine ⟨state, ?_⟩
  intro e member
  have noted := journal e member
  exact weaker e noted

end Upholds

end Act

end Gatekeeper
