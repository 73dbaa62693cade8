import Gatekeeper.Concealed

namespace Gatekeeper

structure Principal where
  name : String
deriving DecidableEq

def Principal.diagnostic (p : Principal) : String :=
  Text.record "Principal" [("name", Text.quoted p.name)]

structure Subject where
  principals : List Principal := []
  publicCredentials : List String := []
  privateCredentials : List (Concealed String) := []
deriving DecidableEq

namespace Subject

/-- A name that is there already keeps its place. -/
def addPrincipal (s : Subject) (p : Principal) : Subject :=
  if p ∈ s.principals then s else { s with principals := s.principals ++ [p] }

theorem addPrincipal_of_mem {s : Subject} {p : Principal} (known : p ∈ s.principals) :
    s.addPrincipal p = s := if_pos known

theorem addPrincipal_of_notMem {s : Subject} {p : Principal} (new : p ∉ s.principals) :
    s.addPrincipal p = { s with principals := s.principals ++ [p] } := if_neg new

theorem mem_addPrincipal {s : Subject} {p q : Principal} :
    q ∈ (s.addPrincipal p).principals ↔ q ∈ s.principals ∨ q = p := by
  unfold addPrincipal
  split
  · next h => exact ⟨.inl, fun hq => hq.elim id (· ▸ h)⟩
  · simp

def addPublic (s : Subject) (credential : String) : Subject :=
  { s with publicCredentials := s.publicCredentials ++ [credential] }

def addPrivate (s : Subject) (credential : String) : Subject :=
  { s with privateCredentials := s.privateCredentials ++ [⟨credential⟩] }

def clear (_ : Subject) : Subject := {}

def isEmpty (s : Subject) : Bool :=
  s.principals.isEmpty && s.publicCredentials.isEmpty && s.privateCredentials.isEmpty

def firstName? (s : Subject) : Option String := s.principals.head?.map (·.name)

def diagnostic (s : Subject) : String :=
  Text.record "Subject"
    [("principals", Text.sequence (s.principals.map Principal.diagnostic)),
     ("public_credentials", Text.quotedSequence s.publicCredentials),
     ("private_credentials", Concealed.sequence s.privateCredentials)]

end Subject

end Gatekeeper
