import Gatekeeper.Verdict

namespace Gatekeeper

/-- `fallsThrough` are the verdicts after which the next candidate is asked, `exhausted` is the
verdict when there is none left, and `sessionSecuresAfter` are the verdicts of the module that
authenticated after which the session module secures too. -/
structure Strategy where
  fallsThrough : Option Verdict → Bool
  exhausted : Option Verdict := some .sendFailure
  sessionSecuresAfter : Option Verdict → Bool := Verdict.isSend
  diagnostic : String

namespace Strategy

/-- The first module decides that does not say the credentials are not its own. -/
def firstMatch : Strategy where
  fallsThrough v := v = some .sendFailure
  diagnostic := "FirstMatch"

end Strategy

end Gatekeeper
