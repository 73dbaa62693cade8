import Gatekeeper.Text.Record

namespace Gatekeeper

structure Concealed (α : Type) where
  expose : α
deriving DecidableEq

namespace Concealed

variable {α : Type}

/-- The same for every value. -/
def text (_ : Concealed α) : String := "[REDACTED]"

def sequence (values : List (Concealed α)) : String := Text.sequence (values.map text)

theorem sequence_eq_of_length_eq {as bs : List (Concealed α)} (h : as.length = bs.length) :
    sequence as = sequence bs := by
  have : as.map text = bs.map text := by
    induction as generalizing bs with
    | nil => cases bs with
      | nil => rfl
      | cons => cases h
    | cons a as ih => cases bs with
      | nil => cases h
      | cons b bs => simpa [text] using ih (Nat.succ.inj h)
  simp [sequence, this]

end Concealed

end Gatekeeper
