import Gatekeeper.Failure

namespace Gatekeeper

/-- What a module may ask of its environment. -/
inductive Callback where
  | caller (name : String)
  | groups (names : List String)
deriving DecidableEq

/-- Says whether the callbacks could be handled, and how they look after it. -/
structure CallbackHandler where
  handle : List Callback → Except AuthError Unit × List Callback

def CallbackHandler.accepting : CallbackHandler where
  handle callbacks := (.ok (), callbacks)

end Gatekeeper
