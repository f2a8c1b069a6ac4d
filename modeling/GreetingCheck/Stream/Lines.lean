import GreetingCheck.Message
import GreetingCheck.Record.Diagnostic
import GreetingCheck.Report
import GreetingCheck.Stream.Outlet
import GreetingCheck.Text.Utf8

/-!
# Reports as lines

A sink over an outlet puts down one line for each diagnostic: what it says in a locale, or its
JSON. A line is flushed once it is complete. An error that the outlet passes on becomes a rejection
that names the stream; the locale decides about the words of a rejection even where the lines
themselves are JSON.
-/

namespace GreetingCheck.Lines

/-- The byte that ends a line. -/
def newline : UInt8 := 10

/-- Writes a text and then the end of its line. -/
def putLine (outlet : Outlet) (line : String) : Output Unit := do
  outlet.put (Text.Utf8.encode line.toList)
  outlet.put [newline]

/-- An action on the writer of a stream, with its errors in words. -/
def reported {α : Type} (locale : Locale) (stream : String) (action : Output α) :
    Emission Writer α :=
  ExceptT.adapt (fun error => ⟨Message.writeFailed locale stream error⟩) action

/-- The sink that writes each diagnostic as a line of text to an outlet. -/
def textTo (locale : Locale) (stream : String) (outlet : Outlet) : Sink Writer where
  emit d := reported locale stream do
    putLine outlet (Message.ofDiagnostic locale d)
    outlet.flush

/-- The sink that writes each diagnostic as a line of JSON to an outlet, in one piece with its
end. -/
def jsonTo (locale : Locale) (stream : String) (outlet : Outlet) : Sink Writer where
  emit d := reported locale stream do
    outlet.put (Text.Utf8.encode d.encode.toList ++ [newline])
    outlet.flush

/-- The sink that writes each diagnostic as a line of text. -/
def text (locale : Locale) (stream : String) (faults : Faults) : Sink Writer :=
  textTo locale stream (.plain faults)

/-- The sink that writes each diagnostic as a line of JSON. -/
def json (locale : Locale) (stream : String) (faults : Faults) : Sink Writer :=
  jsonTo locale stream (.plain faults)

end GreetingCheck.Lines
