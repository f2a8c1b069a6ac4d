import GreetingCheck.Proofs.Program.Environment

/-!
# Text that comes from outside

The program passes on text that it has not written itself: the arguments of a check, the words of an
error, the reason why a report ended and the value of the environment variable. Each stands in its
message between words of the catalog that do not depend on it, and stands there unchanged, also
where it looks like a placeholder (`foreign_text_kept`).
-/

namespace GreetingCheck

open Catalog CommandLine Message

/-- No message expands or drops a part of a text from outside. -/
theorem foreign_text_kept (locale : Locale) :
    (∀ joined, ofDiagnostic locale (.scriptArguments joined) =
        Entry.scriptArguments.lead locale ++ joined ∧
      ofDiagnostic locale (.checkArguments joined) =
        Entry.checkArguments.lead locale ++ joined) ∧
    (∀ stream error, writeFailed locale stream error =
        Entry.writeFailed.lead locale ++ streamName locale stream ++ ": " ++ error.message ∧
      reportFailed locale (writeFailed locale stream error) =
        Entry.reportFailed.lead locale ++ (Entry.writeFailed.lead locale ++
          streamName locale stream ++ ": " ++ error.message)) ∧
    (streamName locale "stdout" = Entry.stdout.template locale ∧
      streamName locale "stderr" = Entry.stderr.template locale ∧
      ∀ stream, stream ≠ "stdout" → stream ≠ "stderr" →
        streamName locale stream = Entry.otherStream.template locale) ∧
    (∀ reason, reportFailed locale reason = Entry.reportFailed.lead locale ++ reason) ∧
    ∀ value, invalidEnvironment locale value =
        Entry.invalidEnvironment.lead locale ++ "ARG_GATE_LANG" ++ ": " ++ value ++
          Entry.invalidEnvironment.trail locale ∧
      (Locale.ofRequest? value = none →
        Program.resolveLocale none (some (raw value)) =
          .error (Entry.invalidEnvironment.lead .fallback ++ "ARG_GATE_LANG" ++ ": " ++ value ++
            Entry.invalidEnvironment.trail .fallback)) := by
  refine ⟨?diagnostics, ?streams, ?names, reportFailed_eq locale, ?environment⟩
  case diagnostics =>
    exact fun joined =>
      ⟨ofDiagnostic_scriptArguments locale joined, ofDiagnostic_checkArguments locale joined⟩
  case streams =>
    intro stream error
    rw [reportFailed_eq, writeFailed_eq]
    exact ⟨rfl, rfl⟩
  case names =>
    exact ⟨streamName_stdout locale, streamName_stderr locale,
      fun stream hout herr => streamName_of_ne hout herr locale⟩
  case environment =>
    intro value
    refine ⟨invalidEnvironment_eq locale value, fun hnone => ?_⟩
    rw [Program.resolveLocale_of_refused hnone]
    exact congrArg _ (invalidEnvironment_eq .fallback value)

/-- A stream without a name of its own, and texts that look like the placeholders of the messages
they stand in. -/
theorem foreign_text_kept_of_placeholders :
    ofDiagnostic .english (.scriptArguments "{args}{args}") =
      "script arguments are: " ++ "{args}{args}" ∧
    reportFailed .english (writeFailed .english "pipe" (.custom .other "{error} {stream}")) =
      "Failed to report check result: " ++ ("Failed to write to " ++ "output" ++ ": " ++
        "{error} {stream}") ∧
    Program.resolveLocale none (some (raw " {env} {value} ")) =
      .error ("Invalid value for " ++ "ARG_GATE_LANG" ++ ": " ++ " {env} {value} " ++
        ". Expected 'en' or 'ca'.") := by
  obtain ⟨hdiagnostic, hwrite, ⟨-, -, hname⟩, -, hvalue⟩ := foreign_text_kept .english
  have hscript : Entry.scriptArguments.lead .english = "script arguments are: " := by decide
  have hreport : Entry.reportFailed.lead .english = "Failed to report check result: " := by decide
  have hfailed : Entry.writeFailed.lead .english = "Failed to write to " := by decide
  have hfront : Entry.invalidEnvironment.lead .fallback = "Invalid value for " := by decide
  have hback : Entry.invalidEnvironment.trail .fallback = ". Expected 'en' or 'ca'." := by decide
  have hother : streamName .english "pipe" = "output" := hname "pipe" (by decide) (by decide)
  refine ⟨?_, ?_, ?_⟩
  · rw [(hdiagnostic _).1, hscript]
  · rw [(hwrite _ _).2, hreport, hfailed, hother]
    rfl
  · rw [(hvalue _).2 (by decide +kernel), hfront, hback]

end GreetingCheck
