import Gatekeeper.Audit.Event
import Gatekeeper.Http.Message
import Gatekeeper.Subject

namespace Gatekeeper

open Http (Request Response)

/-- `shared` holds what modules leave for each other and for the resource. -/
structure Draft where
  request : Request
  response : Response := {}
  shared : Json.Object := []

namespace Draft

def editRequest (d : Draft) (f : Request → Request) : Draft := { d with request := f d.request }

def editResponse (d : Draft) (f : Response → Response) : Draft :=
  { d with response := f d.response }

def publish (d : Draft) (key : String) (value : Json.Value) : Draft :=
  { d with shared := Json.Object.insert key value d.shared }

def withdraw (d : Draft) (key : String) : Draft :=
  { d with shared := Json.Object.erase d.shared key }

end Draft

/-- A request on its way through the gate, with the response that is being prepared for it. Modules
change the draft and add to the trail; the id is fixed. -/
structure Exchange extends Draft where
  id : String
  trail : Audit.Trail := []

namespace Exchange

def start (id : String) (request : Request) : Exchange := { request, id }

/-- The exchange after a module has worked on it. The module may reach the whole trail, and it is
assumed that all it does there is to append `notes`: no entry is taken away, moved or changed. -/
def revise (x : Exchange) (draft : Draft) (notes : List Audit.Entry) : Exchange :=
  { x with toDraft := draft, trail := x.trail ++ notes }

@[simp] theorem revise_id (x : Exchange) (d : Draft) (notes : List Audit.Entry) :
    (x.revise d notes).id = x.id := rfl

@[simp] theorem revise_trail (x : Exchange) (d : Draft) (notes : List Audit.Entry) :
    (x.revise d notes).trail = x.trail ++ notes := rfl

/-- The exchange without the request object, of which it keeps a copy. -/
def detachRequest (x : Exchange) : Exchange := { x with request := x.request.copy }

/-- The exchange without its response, in whose place there is a new one. -/
def takeResponse (x : Exchange) : Exchange := { x with response := {} }

end Exchange

/-- What collaborators hold besides the exchange: the client subject, and memory of their own. -/
structure Custody (ω : Type) where
  client : Subject := {}
  memory : ω

/-- An exchange under way. `vouchedBy` is the place of the module that authenticated it, which the
chain keeps to itself. -/
structure Proceeding (ω : Type) extends Custody ω where
  exchange : Exchange
  vouchedBy : Option Nat := none

end Gatekeeper
