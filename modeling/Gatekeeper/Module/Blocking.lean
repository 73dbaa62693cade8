import Gatekeeper.Module.Basic

namespace Gatekeeper

variable {ω κ φ ρ : Type}

/-- How the faults of a module read; `causes` lists what led to one, the nearest first. -/
structure Fault (φ : Type) where
  text : φ → String
  causes : φ → List String

structure BlockingPhases (ω φ : Type) where
  validate : Subject → Work (Custody ω) (Except Crash (Except φ (Option Verdict)))
  secure : Subject → Work ω (Except Crash (Except φ (Option Verdict)))
  clean : Work (Custody ω) (Except Crash (Except φ Unit))

/-- A module that blocks until it has an answer, and fails with faults of its own. -/
structure BlockingModule (ω φ : Type) where
  id : String
  messageTypes : List MessageType
  fault : Fault φ
  setUp : Setup → ω → Except Crash (Except φ (BlockingPhases ω φ)) × ω

namespace BlockingModule

/-- The error keeps the fault as its nearest cause and gives no status. -/
def convert (m : BlockingModule ω φ) (e : φ) : AuthError :=
  { message := "module '" ++ m.id ++ "' failed: " ++ m.fault.text e
    causes := m.fault.text e :: m.fault.causes e }

def answer (m : BlockingModule ω φ) (r : Except Crash (Except φ ρ)) :
    Ending (Except AuthError ρ) :=
  .ofExcept (r.map fun a => a.mapError m.convert)

def adapt (m : BlockingModule ω φ) (p : BlockingPhases ω φ) : Phases ω where
  validate service x held := (p.validate service x held).map m.answer
  secure service x held := (p.secure service x held).map m.answer
  clean x held := (p.clean x held).map m.answer

def toBlueprint (m : BlockingModule ω φ) : Blueprint ω where
  id := m.id
  messageTypes := m.messageTypes
  setUp s w :=
    let r := m.setUp s w
    (r.1.map fun a => (a.mapError m.convert).map m.adapt, r.2)

end BlockingModule

end Gatekeeper
