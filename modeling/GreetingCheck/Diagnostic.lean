import GreetingCheck.Outcome

/-!
# Diagnostics

Everything a check lets the outside world see is a diagnostic. There are four kinds, and each
carries one field.
-/

namespace GreetingCheck

/-- One event of a report. -/
inductive Diagnostic
  /-- The arguments as the reporting run received them, joined by spaces. -/
  | scriptArguments (joined : String)
  /-- The arguments as the check received them, joined by spaces. -/
  | checkArguments (joined : String)
  /-- The code that the check is about to return. -/
  | functionReturn (code : Int32)
  /-- The final status of the run. -/
  | status (outcome : Outcome)
  deriving DecidableEq

end GreetingCheck
