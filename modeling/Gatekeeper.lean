import Gatekeeper.Module.Blocking
import Gatekeeper.Proofs.Assembly.Building
import Gatekeeper.Proofs.Assembly.Drafting
import Gatekeeper.Proofs.Assembly.Mirror
import Gatekeeper.Proofs.Chain.Inquiry
import Gatekeeper.Proofs.Chain.Securing
import Gatekeeper.Proofs.Diagnostics
import Gatekeeper.Proofs.Gate.Aftermath
import Gatekeeper.Proofs.Gate.Bystander
import Gatekeeper.Proofs.Gate.Coherence
import Gatekeeper.Proofs.Gate.Concealment
import Gatekeeper.Proofs.Gate.Containment
import Gatekeeper.Proofs.Gate.Correlation
import Gatekeeper.Proofs.Gate.Handover
import Gatekeeper.Proofs.Gate.Layering
import Gatekeeper.Proofs.Gate.Order
import Gatekeeper.Proofs.Gate.Principal
import Gatekeeper.Proofs.Gate.Secrecy
import Gatekeeper.Proofs.Gate.Sweep
import Gatekeeper.Proofs.Holdings
import Gatekeeper.Proofs.Refusal.Body
import Gatekeeper.Proofs.Refusal.Lines
import Gatekeeper.Proofs.Refusal.Precedence
