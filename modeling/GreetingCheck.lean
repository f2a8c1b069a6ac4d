import GreetingCheck.Collection
import GreetingCheck.Main
import GreetingCheck.Record.Arguments
import GreetingCheck.Session
import GreetingCheck.Proofs.Report.Echo
import GreetingCheck.Proofs.Report.Handover
import GreetingCheck.Proofs.Report.Protocol
import GreetingCheck.Proofs.Json.Compact
import GreetingCheck.Proofs.Json.Decoder
import GreetingCheck.Proofs.Json.Integer
import GreetingCheck.Proofs.Json.Numeral
import GreetingCheck.Proofs.Json.Reading
import GreetingCheck.Proofs.Record.Diagnostic
import GreetingCheck.Proofs.Record.RoundTrip
import GreetingCheck.Proofs.Json.Truncation
import GreetingCheck.Proofs.Record.Truncation
import GreetingCheck.Proofs.Session
import GreetingCheck.Proofs.Session.Limited
import GreetingCheck.Proofs.Session.Locale
import GreetingCheck.Proofs.Stream.Capacity
import GreetingCheck.Proofs.Stream.JsonLines
import GreetingCheck.Proofs.Stream.Lines
import GreetingCheck.Proofs.Stream.TextLines
import GreetingCheck.Proofs.Stream.Accounting
import GreetingCheck.Proofs.Stream.Retries
import GreetingCheck.Proofs.Catalog
import GreetingCheck.Proofs.Message
import GreetingCheck.Proofs.CommandLine.Item
import GreetingCheck.Proofs.CommandLine.Request
import GreetingCheck.Proofs.Program.Run
import GreetingCheck.Proofs.Program.EndToEnd
import GreetingCheck.Proofs.Program.BrokenStreams
import GreetingCheck.Proofs.Program.Environment
import GreetingCheck.Proofs.Program.ForeignText
import GreetingCheck.Proofs.Program.RawArguments
import GreetingCheck.Proofs.Locale
import GreetingCheck.Proofs.Record.Acceptance
