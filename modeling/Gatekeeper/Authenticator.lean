import Gatekeeper.Log
import Gatekeeper.Module.Basic

namespace Gatekeeper

variable {ω α : Type}

/-- A phase of a module is called, with what it sees. -/
inductive Call where
  | validate (exchange : Exchange) (client service : Subject)
  | secure (exchange : Exchange) (service : Subject)
  | clean (exchange : Exchange) (client : Subject)

/-- What shows of a phase: the calls of modules, which are told apart by their place among the
candidates, and the log. -/
inductive Activity where
  | called (place : Nat) (moduleId : String) (call : Call)
  | logged (r : Log.Record)

abbrev Duty (ω α : Type) := Act (Proceeding ω) Activity α

/-- `moduleIds` names the modules behind the authentication. -/
structure Authenticator (ω : Type) where
  moduleIds : List String
  validate : Subject → Duty ω Answer
  secure : Subject → Duty ω Answer
  clean : Duty ω (Except AuthError Unit)

namespace AuthModule

/-- Lets a module at its place work on the proceeding, holding a part of it. -/
def engage {κ : Type} (m : AuthModule ω) (place : Nat) (call : Call)
    (work : Work κ (Ending α)) (held : Proceeding ω → κ)
    (give : κ → Proceeding ω → Proceeding ω) : Duty ω α := fun p =>
  let v := work p.exchange (held p)
  { ending := v.result
    state := { give v.kept p with exchange := p.exchange.revise v.draft v.notes }
    journal := [.called place m.id call] }

def giveCustody (c : Custody ω) (p : Proceeding ω) : Proceeding ω :=
  { p with toCustody := c }

def giveMemory (memory : ω) (p : Proceeding ω) : Proceeding ω :=
  { p with memory }

def validateAt (m : AuthModule ω) (place : Nat) (service : Subject) : Duty ω Answer := fun p =>
  m.engage place (.validate p.exchange p.client service) (m.validate service)
    Proceeding.toCustody giveCustody p

/-- The client subject is out of reach while a response is secured. -/
def secureAt (m : AuthModule ω) (place : Nat) (service : Subject) : Duty ω Answer := fun p =>
  m.engage place (.secure p.exchange service) (m.secure service) (·.memory) giveMemory p

def cleanAt (m : AuthModule ω) (place : Nat) : Duty ω (Except AuthError Unit) := fun p =>
  m.engage place (.clean p.exchange p.client) m.clean Proceeding.toCustody giveCustody p

/-- One module as the whole authentication; its decisions are not recorded. -/
def toAuthenticator (m : AuthModule ω) : Authenticator ω where
  moduleIds := [m.id]
  validate := m.validateAt 0
  secure := m.secureAt 0
  clean := m.cleanAt 0

end AuthModule

end Gatekeeper
