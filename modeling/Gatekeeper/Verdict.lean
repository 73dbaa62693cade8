namespace Gatekeeper

inductive Verdict where
  | success
  | sendSuccess
  | sendContinue
  | sendFailure
  | failure
deriving DecidableEq

namespace Verdict

def word : Verdict → String
  | success => "SUCCESS"
  | sendSuccess => "SEND_SUCCESS"
  | sendContinue => "SEND_CONTINUE"
  | sendFailure => "SEND_FAILURE"
  | failure => "FAILURE"

def all : List Verdict := [success, sendSuccess, sendContinue, sendFailure, failure]

def ofWord? (s : String) : Option Verdict := all.find? (·.word = s)

theorem ofWord?_word (v : Verdict) : ofWord? v.word = some v := by cases v <;> decide

/-- A module may settle without any verdict. -/
def describe (v : Option Verdict) : String := (v.map word).getD "null"

/-- The verdicts after which the response goes out as it stands. -/
def isSend : Option Verdict → Bool
  | some sendSuccess | some sendContinue => true
  | _ => false

end Verdict

inductive Phase where
  | validateRequest
  | secureResponse
deriving DecidableEq

def Phase.name : Phase → String
  | validateRequest => "validate_request"
  | secureResponse => "secure_response"

def Phase.ofName? (s : String) : Option Phase :=
  [validateRequest, secureResponse].find? (·.name = s)

theorem Phase.ofName?_name (p : Phase) : ofName? p.name = some p := by cases p <;> decide

end Gatekeeper
