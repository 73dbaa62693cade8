import Gatekeeper.Attributes
import Gatekeeper.Http.Headers
import Gatekeeper.Http.StatusCode
import Gatekeeper.Http.Uri

namespace Gatekeeper.Http

inductive Version where
  | http09
  | http10
  | http11
  | http2
  | http3
deriving DecidableEq

def Version.name : Version → String
  | http09 => "HTTP/0.9"
  | http10 => "HTTP/1.0"
  | http11 => "HTTP/1.1"
  | http2 => "HTTP/2.0"
  | http3 => "HTTP/3.0"

def Version.ofName? (s : String) : Option Version :=
  [http09, http10, http11, http2, http3].find? (·.name = s)

theorem Version.ofName?_name (v : Version) : ofName? v.name = some v := by cases v <;> decide

/-- Values that travel with one message object and are no part of its wire form. -/
structure Extensions where
  values : List (String × String) := []
  attributes : Option Attributes := none

structure Request where
  method : String := "GET"
  uri : Uri := ⟨"/"⟩
  version : Version := .http11
  headers : Headers := []
  body : ByteArray := .empty
  extensions : Extensions := {}

/-- The same request as a new object, which nothing travels with. -/
def Request.copy (r : Request) : Request := { r with extensions := {} }

structure Response where
  status : StatusCode := .ok
  headers : Headers := []
  body : ByteArray := .empty
  extensions : Extensions := {}

/-- A response of nothing but a status. -/
def Response.bare (status : StatusCode) : Response := { status }

end Gatekeeper.Http
