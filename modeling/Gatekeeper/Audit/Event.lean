import Gatekeeper.Failure
import Gatekeeper.Verdict

namespace Gatekeeper.Audit

inductive Outcome where
  | success
  | continued
  | denied
  | error
deriving DecidableEq

def Outcome.name : Outcome → String
  | success => "success"
  | continued => "continue"
  | denied => "denied"
  | error => "error"

def Outcome.ofName? (s : String) : Option Outcome :=
  [success, continued, denied, error].find? (·.name = s)

theorem Outcome.ofName?_name (o : Outcome) : ofName? o.name = some o := by cases o <;> decide

inductive Decision where
  | settled (verdict : Option Verdict)
  | failed (reason : String)
deriving DecidableEq

structure Entry where
  moduleId : String
  phase : Phase
  decision : Decision
deriving DecidableEq

namespace Entry

def verdict? (e : Entry) : Option Verdict :=
  match e.decision with
  | .settled v => v
  | .failed _ => none

def reason? (e : Entry) : Option String :=
  match e.decision with
  | .settled _ => none
  | .failed reason => some reason

def isFailure (e : Entry) : Bool := e.reason?.isSome

def text (e : Entry) : String :=
  e.moduleId ++ ":" ++ e.phase.name ++ "=" ++
    match e.decision with
    | .settled v => Verdict.describe v
    | .failed reason => "failed(" ++ reason ++ ")"

end Entry

/-- The decisions on one request, in the order they were taken. -/
abbrev Trail := List Entry

namespace Trail

def record (t : Trail) (e : Entry) : Trail := t ++ [e]

def recordVerdict (t : Trail) (moduleId : String) (phase : Phase) (v : Option Verdict) : Trail :=
  t.record ⟨moduleId, phase, .settled v⟩

/-- Of an error only the message is kept. -/
def recordFailure (t : Trail) (moduleId : String) (phase : Phase) (e : AuthError) : Trail :=
  t.record ⟨moduleId, phase, .failed e.message⟩

end Trail

/-- How a request ended, and every decision on the way there. -/
structure Event where
  requestId : String
  principal : Option String
  outcome : Outcome
  method : Option String := none
  path : Option String := none
  entries : List Entry := []
deriving DecidableEq

def Trail.toEvent (t : Trail) (requestId : String) (principal : Option String)
    (outcome : Outcome) : Event :=
  { requestId, principal, outcome, entries := t }

def part (name : String) : Option String → String
  | none => ""
  | some text => ", " ++ name ++ "=" ++ text

def Event.text (e : Event) : String :=
  "AuditEvent[outcome=" ++ e.outcome.name ++ ", request_id=" ++ e.requestId ++
    ", principal=" ++ e.principal.getD "<none>" ++ part "method" e.method ++ part "path" e.path ++
    (if e.entries.isEmpty then ""
     else ", modules=[" ++ ", ".intercalate (e.entries.map Entry.text) ++ "]") ++ "]"

end Gatekeeper.Audit
