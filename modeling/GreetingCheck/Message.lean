import GreetingCheck.Catalog
import GreetingCheck.Diagnostic
import GreetingCheck.IoError

/-!
# What is said to the user

The messages of the program with the values that belong into them. A diagnostic is one line of a
report; the other messages tell what went wrong, each carrying the words of its cause unchanged.
-/

namespace GreetingCheck.Message

open Catalog

/-- A diagnostic as one line of a report, without the line's end. -/
def ofDiagnostic (locale : Locale) : Diagnostic → String
  | .scriptArguments joined => say locale .scriptArguments [⟨"args", joined⟩]
  | .checkArguments joined => say locale .checkArguments [⟨"args", joined⟩]
  | .functionReturn code => say locale .functionReturn [⟨"code", Text.Decimal.render code.toInt⟩]
  | .status .success => say locale .statusSuccess []
  | .status .failure => say locale .statusFailure []

/-- The name of an output stream in a locale. Only the two standard streams have names of their
own. -/
def streamName (locale : Locale) (stream : String) : String :=
  if stream = "stdout" then say locale .stdout []
  else if stream = "stderr" then say locale .stderr []
  else say locale .otherStream []

/-- An output stream did not take what was written to it. -/
def writeFailed (locale : Locale) (stream : String) (error : IoError) : String :=
  say locale .writeFailed [⟨"stream", streamName locale stream⟩, ⟨"error", error.message⟩]

/-- A report ended before its last diagnostic, for the given reason. -/
def reportFailed (locale : Locale) (reason : String) : String :=
  say locale .reportFailed [⟨"error", reason⟩]

/-- The environment variable that names the preferred locale. -/
def localeVariable : String := "ARG_GATE_LANG"

/-- The environment asks for a locale that there is none of. -/
def invalidEnvironment (locale : Locale) (value : String) : String :=
  say locale .invalidEnvironment [⟨"env", localeVariable⟩, ⟨"value", value⟩]

/-- The disclaimer that goes in front of everything said in another language than English. -/
def disclaimer (locale : Locale) : String := say locale .disclaimer []

/-- The version of the program. -/
def versionNumber : String := "0.1.0"

/-- The line that names the program and its version. -/
def version (locale : Locale) : String := say locale .version [⟨"version", versionNumber⟩]

end GreetingCheck.Message
