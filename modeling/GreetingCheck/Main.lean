import GreetingCheck.Program

/-!
# The command

Runs the program on the arguments and the environment of the process. The run is worked out for
streams that take everything; if one of them turns out not to, it is worked out again for a stream
that fails.
-/

open GreetingCheck

/-- The bytes of a text. -/
private def bytesOf (text : String) : CommandLine.Raw := Text.Utf8.encode text.toList

/-- Writes bytes to a stream of the process; what is left is how the stream fails, if it does. -/
private def send (stream : IO.FS.Stream) (bytes : List UInt8) : IO Faults := do
  try
    unless bytes.isEmpty do
      stream.write bytes.toByteArray
      stream.flush
    return {}
  catch error => return .failing (.custom .other (toString error)) rfl

/-- Runs the program and gives its exit code to the process. -/
def main (args : List String) : IO UInt32 := do
  let args := args.map bytesOf
  let setup : Program.Setup := { language := (← IO.getEnv Message.localeVariable).map bytesOf }
  let (_, planned) := Program.run setup args
  let setup := { setup with stderr := ← send (← IO.getStderr) planned.stderr.stored }
  let (_, planned') := Program.run setup args
  let setup := { setup with stdout := ← send (← IO.getStdout) planned'.stdout.stored }
  let (code, console) := Program.run setup args
  let _ ← send (← IO.getStderr) (console.stderr.stored.drop planned.stderr.stored.length)
  return code.toUInt32
