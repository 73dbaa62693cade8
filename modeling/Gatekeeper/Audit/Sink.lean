import Gatekeeper.Audit.Event
import Gatekeeper.Log
import Gatekeeper.Text.Record

namespace Gatekeeper.Audit

variable {ω κ : Type}

/-- How a sink answered, the memory it left and the records it logged. -/
structure Receipt (ω : Type) where
  answer : Except Crash (Except AuditError Unit)
  memory : ω
  logs : List Log.Record := []

/-- A sink answers at once. -/
structure Sink (ω : Type) where
  receive : Event → ω → Receipt ω

/-- The events that were received. -/
structure Ledger where
  events : List Event := []

namespace Ledger

def add (l : Ledger) (e : Event) : Ledger := ⟨l.events ++ [e]⟩

def size (l : Ledger) : Nat := l.events.length

def isEmpty (l : Ledger) : Bool := l.events.isEmpty

def clear (_ : Ledger) : Ledger := {}

end Ledger

namespace Sink

def recording : Sink Ledger where
  receive e l := { answer := .ok (.ok ()), memory := l.add e }

def eventFields (e : Event) : List (String × String) :=
  [("request_id", e.requestId),
   ("principal", Text.quotedOptional e.principal),
   ("outcome", e.outcome.name),
   ("method", Text.quotedOptional e.method),
   ("path", Text.quotedOptional e.path),
   ("modules", Text.quotedSequence (e.entries.map Entry.text))]

def eventRecord (e : Event) : Log.Record :=
  { level := .info
    message := "authentication audit event"
    fields := eventFields e
    target := some "authn_audit" }

/-- Sends every event to the log. -/
def logging : Sink ω where
  receive e w := { answer := .ok (.ok ()), memory := w, logs := [eventRecord e] }

/-- The same sink on a part of a larger memory. -/
def focus (get : ω → κ) (set : κ → ω → ω) (s : Sink κ) : Sink ω where
  receive e w :=
    let r := s.receive e (get w)
    { answer := r.answer, memory := set r.memory w, logs := r.logs }

end Sink

end Gatekeeper.Audit
