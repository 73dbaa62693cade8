import Gatekeeper.Gate.Run

namespace Gatekeeper

open Http (Request Response)

variable {ω : Type}

/-- A service takes nothing but requests. -/
structure Service (ω : Type) where
  call : Request → ω → Ending Response × ω

/-- The service finds a copy of the attributes beside the request; what it does to the copy is not
seen outside. -/
def Service.toResource (s : Service ω) : Resource ω where
  handle request c :=
    let extensions := { request.extensions with attributes := some c.attributes }
    let r := s.call { request with extensions } c.memory
    (r.1, { c with memory := r.2 })

namespace Gate

/-- The request without its attributes, as the gate behind the layer gets it. -/
def strip (request : Request) : Request :=
  { request with extensions := { request.extensions with attributes := none } }

def attach (attributes : Attributes) (response : Response) : Response :=
  { response with extensions := { response.extensions with attributes := some attributes } }

/-- The gate around a service. Attributes travel as an extension of the request on the way in, and
of the response on the way out. -/
def layer (g : Gate ω) (fresh : String) (inner : Service ω) (request : Request) :
    Act ω Event Response := fun memory =>
  let attributes := request.extensions.attributes.getD {}
  let r := g.process fresh inner.toResource (strip request) { attributes, memory }
  { ending := r.ending.map (attach r.state.attributes)
    state := r.state.memory
    journal := r.journal }

end Gate

end Gatekeeper
