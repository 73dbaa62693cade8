import Gatekeeper.Failure

namespace Gatekeeper

/-- Why an act came to no value: it broke off, or it waits for something that never comes. -/
inductive Halt where
  | crashed (c : Crash)
  | pending
deriving DecidableEq

inductive Ending (α : Type) where
  | settled (a : α)
  | halted (h : Halt)

namespace Ending

def map {α β : Type} (f : α → β) : Ending α → Ending β
  | settled a => settled (f a)
  | halted h => halted h

/-- The ending of a call that does not wait. -/
def ofExcept {α : Type} : Except Crash α → Ending α
  | .ok a => settled a
  | .error c => halted (.crashed c)

end Ending

structure Run (σ ε α : Type) where
  ending : Ending α
  state : σ
  journal : List ε := []

/-- A step with effects. It works on a state, notes events in a journal, and settles on a value or
comes to a halt; what it did before a halt stays done. -/
def Act (σ ε α : Type) := σ → Run σ ε α

variable {σ τ ε δ α β : Type}

/-- Goes on from where a run settled; a halt is the end of it. -/
def Run.andThen (r : Run σ ε α) (f : α → Act σ ε β) : Run σ ε β :=
  match r.ending with
  | .settled a =>
    let next := f a r.state
    { next with journal := r.journal ++ next.journal }
  | .halted h => { r with ending := .halted h }

namespace Act

instance : Monad (Act σ ε) where
  pure a := fun s => { ending := .settled a, state := s }
  bind x f := fun s => (x s).andThen f

@[simp] theorem pure_apply (a : α) (s : σ) :
    (pure a : Act σ ε α) s = { ending := .settled a, state := s } := rfl

theorem bind_apply (x : Act σ ε α) (f : α → Act σ ε β) (s : σ) :
    (x >>= f) s = (x s).andThen f := rfl

theorem bind_of_settled {x : Act σ ε α} {s : σ} {a : α} (h : (x s).ending = .settled a)
    (f : α → Act σ ε β) :
    (x >>= f) s =
      { f a (x s).state with journal := (x s).journal ++ (f a (x s).state).journal } := by
  simp [bind_apply, Run.andThen, h]

theorem bind_of_halted {x : Act σ ε α} {s : σ} {h : Halt} (hx : (x s).ending = .halted h)
    (f : α → Act σ ε β) :
    (x >>= f) s = { ending := .halted h, state := (x s).state, journal := (x s).journal } := by
  simp [bind_apply, Run.andThen, hx]

instance : LawfulMonad (Act σ ε) := LawfulMonad.mk' (Act σ ε)
  (by
    intro α x
    funext s
    show (x s).andThen (fun a => pure (id a)) = x s
    cases h : x s with
    | mk e t j => cases e <;> simp [Run.andThen])
  (by
    intro α β a f
    funext s
    simp [bind_apply, Run.andThen])
  (by
    intro α β γ x f g
    funext s
    simp only [bind_apply]
    cases h : x s with
    | mk e t j =>
      cases e with
      | halted => simp [Run.andThen]
      | settled a =>
        simp only [Run.andThen, bind_apply]
        cases h' : f a t with
        | mk e' t' j' => cases e' <;> simp [List.append_assoc])

def get : Act σ ε σ := fun s => { ending := .settled s, state := s }

def modify (f : σ → σ) : Act σ ε Unit := fun s => { ending := .settled (), state := f s }

/-- Notes one event. -/
def emit (e : ε) : Act σ ε Unit := fun s => { ending := .settled (), state := s, journal := [e] }

/-- Ends as a call ended. -/
def ofEnding (e : Ending α) : Act σ ε α := fun s => { ending := e, state := s }

/-- A call that answers at once. -/
def prompt (call : σ → Except Crash α × σ) : Act σ ε α := fun s =>
  let (answer, s) := call s
  { ending := .ofExcept answer, state := s }

/-- Settles in any case, on how the act ended. -/
def attempt (x : Act σ ε α) : Act σ ε (Ending α) := fun s =>
  { x s with ending := .settled (x s).ending }

/-- A crash becomes the answer that it happened. -/
def guarded (x : Act σ ε (Except AuthError α)) : Act σ ε (Except AuthError α) := fun s =>
  match (x s).ending with
  | .halted (.crashed c) => { x s with ending := .settled (.error (.ofCrash c)) }
  | _ => x s

/-- The same act on a part of a larger state. -/
def focus (part : τ → σ) (put : σ → τ → τ) (x : Act σ ε α) : Act τ ε α := fun t =>
  { ending := (x (part t)).ending
    state := put (x (part t)).state t
    journal := (x (part t)).journal }

def mapJournal (f : ε → δ) (x : Act σ ε α) : Act σ δ α := fun s =>
  { ending := (x s).ending, state := (x s).state, journal := (x s).journal.map f }

end Act

end Gatekeeper
