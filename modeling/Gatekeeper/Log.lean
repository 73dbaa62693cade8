namespace Gatekeeper

namespace Log

inductive Level where
  | debug
  | info
  | warn
  | error
deriving DecidableEq

def Level.name : Level → String
  | debug => "DEBUG"
  | info => "INFO"
  | warn => "WARN"
  | error => "ERROR"

/-- `target` is set only where a record is meant for a reader of its own. -/
structure Record where
  level : Level
  message : String
  fields : List (String × String) := []
  target : Option String := none
  span : Option String := none
deriving DecidableEq

/-- The innermost span is the one that a record belongs to. -/
def Record.within (span : String) (r : Record) : Record :=
  { r with span := r.span.orElse fun _ => some span }

structure Span where
  name : String
  level : Level
  fields : List (String × String)
deriving DecidableEq

end Log

structure Logger where
  name : String := "authn_filter"
deriving DecidableEq

/-- The log of one request. -/
structure RequestLog where
  logger : Logger
  requestId : String

def Logger.forRequest (logger : Logger) (requestId : String) : RequestLog := ⟨logger, requestId⟩

def RequestLog.record (log : RequestLog) (level : Log.Level) (message : String) : Log.Record :=
  { level, message, fields := [("logger", log.logger.name), ("request_id", log.requestId)] }

end Gatekeeper
