import Gatekeeper.Http.StatusCode
import Gatekeeper.Text.Record

namespace Gatekeeper

open Http (StatusCode)

/-- A collaborator that breaks off instead of answering; what it leaves need not be text. -/
inductive Crash where
  | text (message : String)
  | other
deriving DecidableEq

def Crash.message : Crash → String
  | text message => message
  | other => "unknown panic"

/-- `statusHint` is the status that the client should see. `causes` are the texts of what led to
the error, the nearest first. -/
structure AuthError where
  message : String
  statusHint : Option StatusCode := none
  causes : List String := []
deriving DecidableEq

namespace AuthError

/-- What a crash of a module counts as. -/
def ofCrash (c : Crash) : AuthError :=
  { message := "authentication module panicked: " ++ c.message }

/-- The status that a response to the error carries. -/
def status (e : AuthError) : StatusCode := e.statusHint.getD .internalServerError

def diagnostic (e : AuthError) : String :=
  Text.record "AuthenticationError"
    [("message", Text.quoted e.message),
     ("status", Text.optional (e.statusHint.map fun s => toString s.code)),
     ("source", Text.quotedOptional e.causes.head?)]

end AuthError

structure AuditError where
  message : String
deriving DecidableEq

namespace AuditError

def text (e : AuditError) : String := "audit failed: " ++ e.message

def diagnostic (e : AuditError) : String :=
  Text.record "AuditError" [("message", Text.quoted e.message)]

end AuditError

inductive BuildError where
  | illegalState (reason : String)
  | rejected (moduleId : String) (cause : AuthError)
  | unsupportedMessages (moduleId : String)
deriving DecidableEq

namespace BuildError

def text : BuildError → String
  | illegalState reason => "illegal state: " ++ reason
  | rejected moduleId _ => "failed to initialize module '" ++ moduleId ++ "'"
  | unsupportedMessages moduleId =>
    "module '" ++ moduleId ++ "' does not support HTTP request and response messages"

def moduleId? : BuildError → Option String
  | illegalState _ => none
  | rejected moduleId _ => some moduleId
  | unsupportedMessages moduleId => some moduleId

def causes : BuildError → List String
  | rejected _ cause => cause.message :: cause.causes
  | _ => []

def diagnostic : BuildError → String
  | illegalState reason => Text.wrapped "IllegalState" (Text.quoted reason)
  | rejected moduleId cause =>
    Text.record "ModuleInitialization"
      [("module", Text.quoted moduleId), ("source", cause.diagnostic)]
  | unsupportedMessages moduleId =>
    Text.record "UnsupportedMessageTypes" [("module", Text.quoted moduleId)]

end BuildError

end Gatekeeper
