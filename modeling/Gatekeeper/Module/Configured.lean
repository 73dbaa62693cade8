import Gatekeeper.Log
import Gatekeeper.Module.Basic

namespace Gatekeeper

variable {ω : Type}

structure Configured (ω : Type) where
  blueprint : Blueprint ω
  setup : Setup := {}

/-- What happens while a filter is built. -/
inductive BuildEvent where
  | settingUp (moduleId : String) (setup : Setup)
  | logged (r : Log.Record)

abbrev Build (ω α : Type) := Act ω BuildEvent α

namespace Configured

def id (c : Configured ω) : String := c.blueprint.id

def readyRecord (moduleId : String) : Log.Record :=
  { level := .debug
    message := "authentication module initialized"
    fields := [("module", moduleId)] }

/-- A module that lacks a message type is refused before it is set up. -/
def setUp (c : Configured ω) : Build ω (Except BuildError (AuthModule ω)) := do
  if c.blueprint.supportsHttp then
    Act.emit (.settingUp c.id c.setup)
    match ← Act.prompt (c.blueprint.setUp c.setup) with
    | .error cause => return .error (.rejected c.id cause)
    | .ok phases =>
      Act.emit (.logged (readyRecord c.id))
      return .ok { phases with id := c.id }
  else
    return .error (.unsupportedMessages c.id)

/-- Shows the keys of the settings only. -/
def diagnostic (c : Configured ω) : String :=
  Text.record "ModuleConfiguration"
    [("module", Text.quoted c.id),
     ("request_policy", c.setup.requestPolicy.diagnostic),
     ("response_policy", Text.optional (c.setup.responsePolicy.map Policy.diagnostic)),
     ("settings", Text.quotedSequence c.setup.settings.keys)]

end Configured

end Gatekeeper
