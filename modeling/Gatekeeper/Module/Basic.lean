import Gatekeeper.Act
import Gatekeeper.Exchange
import Gatekeeper.Module.Callback
import Gatekeeper.Policy

namespace Gatekeeper

variable {ω κ ρ ρ' : Type}

abbrev Answer := Except AuthError (Option Verdict)

/-- What a module leaves after working on an exchange: its result, the draft, the decisions it
noted itself, and what it was given to hold. Here `notes` are what the module appended to the trail;
that it did nothing else to the trail is an assumption about modules. -/
structure Visit (κ ρ : Type) where
  result : ρ
  draft : Draft
  notes : List Audit.Entry := []
  kept : κ

def Visit.map (f : ρ → ρ') (v : Visit κ ρ) : Visit κ ρ' := { v with result := f v.result }

/-- A module sees the whole exchange and holds `κ` while it works. -/
abbrev Work (κ ρ : Type) := Exchange → κ → Visit κ ρ

/-- Each phase but cleaning also sees the service subject. -/
structure Phases (ω : Type) where
  validate : Subject → Work (Custody ω) (Ending Answer)
  secure : Subject → Work ω (Ending Answer)
  clean : Work (Custody ω) (Ending (Except AuthError Unit))

structure AuthModule (ω : Type) extends Phases ω where
  id : String

inductive MessageType where
  | request
  | response
deriving DecidableEq

def MessageType.http : List MessageType := [.request, .response]

/-- What a module is set up with. -/
structure Setup where
  requestPolicy : Policy := .required
  responsePolicy : Option Policy := none
  callbacks : CallbackHandler := .accepting
  settings : Json.Object := []

/-- A module that has not been set up. -/
structure Blueprint (ω : Type) where
  id : String
  messageTypes : List MessageType := MessageType.http
  setUp : Setup → ω → Except Crash (Except AuthError (Phases ω)) × ω

/-- Whether the module takes both kinds of HTTP message. -/
def Blueprint.supportsHttp (b : Blueprint ω) : Bool := MessageType.http.all (· ∈ b.messageTypes)

end Gatekeeper
