import Gatekeeper.Text.Record

namespace Gatekeeper

inductive Protection where
  | sender
  | content
  | recipient
deriving DecidableEq

def Protection.diagnostic : Protection → String
  | sender => "AuthenticateSender"
  | content => "AuthenticateContent"
  | recipient => "AuthenticateRecipient"

structure Policy where
  protection : Protection := .sender
  mandatory : Bool := true
deriving DecidableEq

namespace Policy

def required : Policy := {}

def optional : Policy := { mandatory := false }

def diagnostic (p : Policy) : String :=
  Text.record "MessagePolicy"
    [("protection", p.protection.diagnostic), ("mandatory", Text.flag p.mandatory)]

end Policy

end Gatekeeper
