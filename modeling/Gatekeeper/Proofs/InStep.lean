import Gatekeeper.Proofs.Act

namespace Gatekeeper

variable {σ τ δ ε ν α α' β β' : Type}

/-- Both settle, on values that are the same in this sense, or both come to the same halt. -/
inductive Ending.Rel (same : α → α' → Prop) : Ending α → Ending α' → Prop
  | settled {a a'} (h : same a a') : Rel same (settled a) (settled a')
  | halted (h) : Rel same (halted h) (halted h)

namespace Ending.Rel

variable {same : α → α' → Prop}

theorem of_eq {e e' : Ending α} (same : e' = e) : e.Rel Eq e' := by
  rw [same]
  cases e with
  | settled a => exact .settled rfl
  | halted h => exact .halted h

/-- Where errors are the same, the same crash becomes the same answer. -/
theorem contained {same : Except AuthError α → Except AuthError α' → Prop}
    {e : Ending (Except AuthError α)} {e' : Ending (Except AuthError α')} (h : e.Rel same e')
    (errors : ∀ e, same (.error e) (.error e)) : e.contained.Rel same e'.contained := by
  cases h with
  | settled h => exact .settled h
  | halted h =>
    cases h with
    | crashed c => exact .settled (errors _)
    | pending => exact .halted _

theorem of_settled {e : Ending α} {e' : Ending α'} (h : e.Rel same e') {a : α}
    (settled : e = .settled a) : ∃ a', e' = .settled a' ∧ same a a' := by
  cases h with
  | settled h =>
    cases settled
    exact ⟨_, rfl, h⟩
  | halted h => cases settled

theorem of_halted {e : Ending α} {e' : Ending α'} (h : e.Rel same e') {k : Halt}
    (halted : e = .halted k) : e' = .halted k := by
  cases h with
  | settled h => cases halted
  | halted h =>
    cases halted
    rfl

theorem eq {e e' : Ending α} (h : e.Rel Eq e') : e' = e := by
  cases h with
  | settled h => rw [h]
  | halted h => rfl

end Ending.Rel

/-- Both give related values, or the same error. -/
inductive Concur (same : α → α' → Prop) : Except ε α → Except ε α' → Prop
  | ok {a a'} (h : same a a') : Concur same (.ok a) (.ok a')
  | error (e) : Concur same (.error e) (.error e)

theorem Concur.ofExcept {same : α → α' → Prop} {r : Except Crash α} {r' : Except Crash α'}
    (h : Concur same r r') : (Ending.ofExcept r).Rel same (.ofExcept r') := by
  cases h with
  | ok h => exact .settled h
  | error c => exact .halted _

/-- What two observers note of an event, each in a run of its own. -/
structure Watch (ε ν : Type) where
  first : ε → Option ν
  second : ε → Option ν

/-- The same observers, who are told of other events. -/
def Watch.comap (w : Watch ε ν) (f : δ → ε) : Watch δ ν where
  first := w.first ∘ f
  second := w.second ∘ f

/-- Two observers who note nothing. -/
def Watch.silent : Watch ε Unit := ⟨fun _ => none, fun _ => none⟩

structure Run.InStep (w : Watch ε ν) (like : σ → τ → Prop) (same : α → α' → Prop)
    (r : Run σ ε α) (r' : Run τ ε α') : Prop where
  ending : r.ending.Rel same r'.ending
  state : like r.state r'.state
  journal : r.journal.filterMap w.first = r'.journal.filterMap w.second

namespace Run.InStep

variable {w : Watch ε ν} {like : σ → τ → Prop} {same : α → α' → Prop}
  {same' : β → β' → Prop} {r : Run σ ε α} {r' : Run τ ε α'}

theorem after (h : r.InStep w like same r') {i j : List ε}
    (noted : i.filterMap w.first = j.filterMap w.second) :
    (r.after i).InStep w like same (r'.after j) where
  ending := h.ending
  state := h.state
  journal := by
    rw [after_journal, after_journal, List.filterMap_append, List.filterMap_append, noted,
      h.journal]

theorem bind {x : Act σ ε α} {x' : Act τ ε α'} {f : α → Act σ ε β} {f' : α' → Act τ ε β'} {s : σ}
    {s' : τ} (first : (x s).InStep w like same (x' s'))
    (next : ∀ a a' t t', same a a' → like t t' → (f a t).InStep w like same' (f' a' t')) :
    ((x >>= f) s).InStep w like same' ((x' >>= f') s') := by
  obtain ⟨ending, state, journal⟩ := first
  generalize ends : (x s).ending = e at ending
  generalize ends' : (x' s').ending = e' at ending
  cases ending with
  | halted h =>
    rw [Act.bind_of_halted ends, Act.bind_of_halted ends']
    exact ⟨.halted h, state, journal⟩
  | settled h =>
    rw [Act.settled_bind ends, Act.settled_bind ends']
    exact (next _ _ _ _ h state).after journal

end Run.InStep

/-- From related states the two acts run in step. -/
def Act.InStep (w : Watch ε ν) (like : σ → τ → Prop) (same : α → α' → Prop) (x : Act σ ε α)
    (x' : Act τ ε α') : Prop :=
  ∀ s s', like s s' → (x s).InStep w like same (x' s')

namespace Act.InStep

variable {w : Watch ε ν} {like : σ → τ → Prop} {same : α → α' → Prop} {same' : β → β' → Prop}

theorem pure {a : α} {a' : α'} (h : same a a') :
    InStep w like same (pure a : Act σ ε α) (pure a' : Act τ ε α') := by
  intro s s' related
  exact ⟨.settled h, related, rfl⟩

theorem halt (h : Halt) :
    InStep w like same (ofEnding (.halted h) : Act σ ε α) (ofEnding (.halted h) : Act τ ε α') := by
  intro s s' related
  exact ⟨.halted h, related, rfl⟩

theorem emit {e e' : ε} (noted : w.first e = w.second e') :
    InStep w like (fun _ _ => True) (emit e : Act σ ε Unit) (emit e' : Act τ ε Unit) := by
  intro s s' related
  have journal : [e].filterMap w.first = [e'].filterMap w.second := by
    rw [List.filterMap_cons, List.filterMap_cons, noted]
    rfl
  exact ⟨.settled trivial, related, journal⟩

theorem modify {f : σ → σ} {f' : τ → τ} (again : ∀ s s', like s s' → like (f s) (f' s')) :
    InStep w like (fun _ _ => True) (modify f : Act σ ε Unit) (modify f' : Act τ ε Unit) := by
  intro s s' related
  exact ⟨.settled trivial, again s s' related, rfl⟩

theorem prompt {call : σ → Except Crash α × σ} {call' : τ → Except Crash α' × τ}
    (answer : ∀ s s', like s s' → Concur same (call s).1 (call' s').1)
    (state : ∀ s s', like s s' → like (call s).2 (call' s').2) :
    InStep w like same (prompt call : Act σ ε α) (prompt call' : Act τ ε α') := by
  intro s s' related
  exact ⟨(answer s s' related).ofExcept, state s s' related, rfl⟩

theorem get_bind {f : σ → Act σ ε α} {f' : τ → Act τ ε α'}
    (next : ∀ s s', like s s' → InStep w like same (f s) (f' s')) :
    InStep w like same (get >>= f) (get >>= f') := by
  intro s s' related
  have rest := next s s' related
  exact rest s s' related

theorem bind {x : Act σ ε α} {x' : Act τ ε α'} {f : α → Act σ ε β} {f' : α' → Act τ ε β'}
    (first : InStep w like same x x')
    (next : ∀ a a', same a a' → InStep w like same' (f a) (f' a')) :
    InStep w like same' (x >>= f) (x' >>= f') := by
  intro s s' related
  refine (first s s' related).bind ?_
  intro a a' t t' agree related
  exact next a a' agree t t' related

/-- Where the first acts give nothing to go by. -/
theorem seq {x : Act σ ε Unit} {x' : Act τ ε Unit} {y : Act σ ε β} {y' : Act τ ε β'}
    (first : InStep w like (fun _ _ => True) x x') (next : InStep w like same' y y') :
    InStep w like same' (x >>= fun _ => y) (x' >>= fun _ => y') := by
  refine first.bind ?_
  intro _ _ _
  exact next

/-- Where the first acts give the same. -/
theorem bind_eq {x : Act σ ε α} {x' : Act τ ε α} {f : α → Act σ ε β} {f' : α → Act τ ε β'}
    (first : InStep w like Eq x x') (next : ∀ a, InStep w like same' (f a) (f' a)) :
    InStep w like same' (x >>= f) (x' >>= f') := by
  refine first.bind ?_
  intro a a' same
  cases same
  exact next a

theorem attempt {x : Act σ ε α} {x' : Act τ ε α'} (h : InStep w like same x x') :
    InStep w like (Ending.Rel same) x.attempt x'.attempt := by
  intro s s' related
  have run := h s s' related
  exact ⟨.settled run.ending, run.state, run.journal⟩

theorem attempt_eq {x : Act σ ε α} {x' : Act τ ε α} (h : InStep w like Eq x x') :
    InStep w like Eq x.attempt x'.attempt := by
  intro s s' related
  have run := h s s' related
  have ended : (x s).ending = (x' s').ending := run.ending.eq.symm
  exact ⟨.settled ended, run.state, run.journal⟩

theorem guarded {same : Except AuthError α → Except AuthError α' → Prop}
    {x : Act σ ε (Except AuthError α)} {x' : Act τ ε (Except AuthError α')}
    (h : InStep w like same x x') (errors : ∀ e, same (.error e) (.error e)) :
    InStep w like same x.guarded x'.guarded := by
  intro s s' related
  obtain ⟨ending, state, journal⟩ := h s s' related
  rw [guarded_apply, guarded_apply]
  exact ⟨ending.contained errors, state, journal⟩

end Act.InStep

end Gatekeeper
