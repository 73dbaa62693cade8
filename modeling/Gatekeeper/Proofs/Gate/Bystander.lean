import Gatekeeper.Assembly.Plan
import Gatekeeper.Proofs.Chain.Bystander
import Gatekeeper.Proofs.Gate.Dispatch
import Gatekeeper.Proofs.Gate.InStep
import Gatekeeper.Proofs.Gate.Principal

namespace Gatekeeper

open Audit (Trail)
open Http (Request Response)

variable {ω : Type} {like : ω → ω → Prop}

def Responder.Overlooks (like : ω → ω → Prop) (r : Responder ω) : Prop :=
  Responder.EqUpToTrail (fun _ _ => True) like r r

/-- Nor does the resource look into the chain that the attributes name. -/
def Resource.Overlooks (like : ω → ω → Prop) (ids ids' : List String) (r : Resource ω) : Prop :=
  Resource.EqUpToAttributes (Attributes.EqUpToChain ids ids') like r r

namespace Gate

variable {g : Gate ω} {c : Chain ω} {i : Nat} {d : AuthModule ω} {resource : Resource ω}

/-- The leeway of the runs without the module and with it. -/
abbrev margin (like : ω → ω → Prop) (c : Chain ω) (i : Nat) (d : AuthModule ω)
    (front extra : Trail) : Leeway ω :=
  .beside like c.moduleIds (c.insert i d).moduleIds (c.before i).length front extra

theorem eqUpTo_insert (modules : ∀ m ∈ c.candidates, m.Overlooks like)
    (responder : g.responder.Overlooks like) (front extra : Trail) :
    (g.fronting c).EqUpTo (margin like c i d front extra) (g.fronting (c.insert i d)) where
  logger := rfl
  service := rfl
  responder :=
    { answer := fun e _ _ alike => responder.answer e alike.any
      memory := fun e _ _ alike => responder.memory e alike.any }
  secure := Chain.secure_beside modules _ _ i d front extra g.service
  grants _ _ alike := ⟨alike.requestId, rfl, rfl, .inr ⟨rfl, rfl⟩⟩

variable (fresh : String) (request : Request) (attributes : Attributes) {memory memory' : ω}

end Gate

end Gatekeeper
