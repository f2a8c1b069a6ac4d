import GreetingCheck.CommandLine.Help
import GreetingCheck.CommandLine.Request
import GreetingCheck.Stream.Lines

/-!
# The program

A run of the program takes a command line, the environment's preference for a locale and two
output streams to an exit code and to what the streams have received. A usage error comes before
everything else, help before the choice of a locale, and the disclaimer of a locale other than
English before the version or the report. A run whose version line or report does not get through
ends with a message and an exit code other than zero; that the help does not get through goes
unnoticed.
-/

namespace GreetingCheck.Program

open CommandLine

/-- The two output streams of a run. -/
structure Console where
  stdout : Writer := {}
  stderr : Writer := {}
  deriving DecidableEq

namespace Console

/-- Where a console keeps the standard output. -/
def stdoutPlace : Place Console Writer where
  get := Console.stdout
  set w c := { c with stdout := w }
  get_set _ _ := rfl
  set_get _ := rfl
  set_set _ _ _ := rfl

/-- Where a console keeps the standard error output. -/
def stderrPlace : Place Console Writer where
  get := Console.stderr
  set w c := { c with stderr := w }
  get_set _ _ := rfl
  set_get _ := rfl
  set_set _ _ _ := rfl

end Console

/-- The circumstances of a run: the environment's preference for a locale, and what can go wrong
with the descriptors of the two streams. -/
structure Setup where
  /-- The value of the environment variable `ARG_GATE_LANG`, if it is set. -/
  language : Option Raw := none
  stdout : Faults := {}
  stderr : Faults := {}

/-- An action on the console that may end with a message for the user. -/
abbrev Run (α : Type) := ExceptT String (StateM Console) α

/-! ## The steps of a run -/

/-- Writes a line to the standard output. -/
def writeStdout (setup : Setup) (locale : Locale) (line : String) : Emission Console Unit :=
  (Lines.reported locale "stdout" (Lines.putLine (.standard setup.stdout) line)).within
    Console.stdoutPlace

/-- Writes a line to the standard error output. -/
def writeStderr (setup : Setup) (locale : Locale) (line : String) : Emission Console Unit :=
  (Lines.reported locale "stderr" (Lines.putLine (.standard setup.stderr) line)).within
    Console.stderrPlace

/-- The locale of a run: the one asked for on the command line, else the one that the environment
asks for, else the one in use where none is asked for. An environment whose value is no text asks
for none. -/
def resolveLocale (lang : Option Locale) (language : Option Raw) : Except String Locale :=
  match lang, language.bind Text.Utf8.decode? with
  | some locale, _ => .ok locale
  | none, none => .ok .fallback
  | none, some request =>
    match Locale.ofRequest? (.ofList request) with
    | some locale => .ok locale
    | none => .error (Message.invalidEnvironment .fallback (.ofList request))

/-- The sink that a report of a given form goes to. -/
def reportSink (setup : Setup) (locale : Locale) : Format → Sink Console
  | .text => (Lines.textTo locale "stdout" (.standard setup.stdout)).within Console.stdoutPlace
  | .json => (Lines.jsonTo locale "stdout" (.standard setup.stdout)).within Console.stdoutPlace

/-- The arguments of a check, with replacement characters for what is no text. -/
def argumentsOfRaw (raw : List Raw) : Arguments :=
  ⟨raw.map fun bytes => .ofList (Text.Utf8.decodeLossy bytes)⟩

/-- Shows the disclaimer where one is due, and then the version or the report. -/
def perform (setup : Setup) (invocation : Invocation) : Run Outcome := do
  let locale ← ExceptT.mk (pure (resolveLocale invocation.lang setup.language))
  if locale ≠ .english then
    (writeStderr setup locale (Message.disclaimer locale)).adapt Rejection.reason
  if invocation.version then
    (writeStdout setup locale (Message.version locale)).adapt Rejection.reason
    return .success
  else
    (runReport (reportSink setup locale invocation.format)
      (argumentsOfRaw invocation.positionals)).adapt fun rejection =>
        Message.reportFailed locale rejection.reason

/-! ## Whole runs -/

/-- The exit code of a run that has come to an outcome. -/
def exitCode : Outcome → UInt8
  | .success => 0
  | .failure => 1

/-- The exit code of a run that ended with a message. -/
def failureExitCode : UInt8 := 1

/-- The exit code of a run whose command line was refused. -/
def usageExitCode : UInt8 := 2

/-- Writes a last line to the standard error output. That it may not get there changes nothing. -/
def complain (setup : Setup) (line : String) (console : Console) : Console :=
  ((writeStderr setup .fallback line).carryOut console).2

/-- A run of the program. -/
def run (setup : Setup) (args : List Raw) : UInt8 × Console :=
  match Request.ofArguments args with
  | .error error => (usageExitCode, complain setup error.message {})
  | .ok (.help form) => (0, ((writeStdout setup .fallback form.text).carryOut {}).2)
  | .ok (.run invocation) =>
    match ((perform setup invocation).run.run {}).run with
    | (.ok outcome, console) => (exitCode outcome, console)
    | (.error message, console) => (failureExitCode, complain setup message console)

end GreetingCheck.Program
