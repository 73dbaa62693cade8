import Gatekeeper.Failure
import Gatekeeper.Http.Message
import Gatekeeper.Json.Printer

namespace Gatekeeper

open Http (Headers HeaderValue Response)

structure Writer where
  mediaType : String
  write : AuthError → Response

namespace Writer

/-- The members stand in this order. -/
def errorBody (e : AuthError) : Json.Value :=
  .object
    [("code", .number (.whole e.status.code)),
     ("reason", .string (e.status.phrase?.getD "")),
     ("message", .string e.message)]

def json : Writer where
  mediaType := "application/json"
  write e :=
    { status := e.status
      headers := Headers.insert [] "content-type" (HeaderValue.ofText "application/json")
      body := (errorBody e).compact.toUTF8 }

end Writer

end Gatekeeper
