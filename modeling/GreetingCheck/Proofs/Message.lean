import Mathlib.Tactic.SplitIfs
import GreetingCheck.Message
import GreetingCheck.Proofs.Catalog

/-!
# The words of the messages

What the messages of the program say, with the values that belong into them in place. A value that
comes from outside stands in its message unchanged, whatever it contains: it is the last to be
filled in, and the values before it bring in no brace.

A line of a report begins with words that no line of another kind begins with, and goes on with its
value. So the line determines the diagnostic (`ofDiagnostic_inj`), also where an argument imitates
the words of another line.
-/

namespace GreetingCheck.Message

open Catalog Text.Template

/-! ## Messages about failures -/

theorem reportFailed_eq (locale : Locale) (reason : String) :
    reportFailed locale reason = Entry.reportFailed.lead locale ++ reason :=
  say_last (by cases locale <;> decide) reason

@[simp] theorem streamName_stdout (locale : Locale) :
    streamName locale "stdout" = Entry.stdout.template locale := by
  rw [streamName, if_pos rfl, say_nil]

@[simp] theorem streamName_stderr (locale : Locale) :
    streamName locale "stderr" = Entry.stderr.template locale := by
  rw [streamName, if_neg (by decide), if_pos rfl, say_nil]

theorem streamName_of_ne {stream : String} (hout : stream ≠ "stdout") (herr : stream ≠ "stderr")
    (locale : Locale) : streamName locale stream = Entry.otherStream.template locale := by
  rw [streamName, if_neg hout, if_neg herr, say_nil]

/-- The name of a stream does not look like a placeholder. -/
theorem no_brace_streamName (locale : Locale) (stream : String) :
    '{' ∉ (streamName locale stream).toList := by
  unfold streamName
  split_ifs
  all_goals
    rw [toList_say_nil]
    cases locale <;> decide

theorem writeFailed_eq (locale : Locale) (stream : String) (error : IoError) :
    writeFailed locale stream error =
      Entry.writeFailed.lead locale ++ streamName locale stream ++ ": " ++ error.message := by
  have htrail : Entry.writeFailed.trail locale = "" := by
    cases locale <;> decide
  have hpair : writeFailed locale stream error = Entry.writeFailed.lead locale ++
      streamName locale stream ++ ": " ++ error.message ++ Entry.writeFailed.trail locale :=
    say_pair (by cases locale <;> decide) (by cases locale <;> decide) (by decide)
      (no_brace_streamName locale stream) error.message
  rw [hpair, htrail, String.append_empty]

/-- The value stands between the name of the variable and what is expected of it. -/
theorem invalidEnvironment_eq (locale : Locale) (value : String) :
    invalidEnvironment locale value =
      Entry.invalidEnvironment.lead locale ++ localeVariable ++ ": " ++ value ++
        Entry.invalidEnvironment.trail locale := by
  have hvariable : '{' ∉ localeVariable.toList := by decide
  exact say_pair (by cases locale <;> decide) (by cases locale <;> decide) (by decide) hvariable
    value

theorem version_eq (locale : Locale) : version locale = "arg-gate 0.1.0" := by
  have hversion : version locale = Entry.version.lead locale ++ versionNumber :=
    say_last (by cases locale <;> decide) versionNumber
  rw [hversion]
  cases locale <;> decide

theorem disclaimer_catalan : disclaimer .catalan =
    "Nota: la sortida que no és en anglès està traduïda automàticament i pot ser inexacta." :=
  say_nil .catalan .disclaimer

/-! ## Lines of a report -/

theorem ofDiagnostic_scriptArguments (locale : Locale) (joined : String) :
    ofDiagnostic locale (.scriptArguments joined) = Entry.scriptArguments.lead locale ++ joined :=
  say_last (by cases locale <;> decide) joined

theorem ofDiagnostic_checkArguments (locale : Locale) (joined : String) :
    ofDiagnostic locale (.checkArguments joined) = Entry.checkArguments.lead locale ++ joined :=
  say_last (by cases locale <;> decide) joined

theorem ofDiagnostic_functionReturn (locale : Locale) (code : Int32) :
    ofDiagnostic locale (.functionReturn code) =
      Entry.functionReturn.lead locale ++ Text.Decimal.render code.toInt :=
  say_last (by cases locale <;> decide) _

/-- The entry of the catalog that gives the line of a diagnostic its words. -/
def entryOf : Diagnostic → Entry
  | .scriptArguments _ => .scriptArguments
  | .checkArguments _ => .checkArguments
  | .functionReturn _ => .functionReturn
  | .status .success => .statusSuccess
  | .status .failure => .statusFailure

/-- What the line of a diagnostic says behind its words. -/
def valueOf : Diagnostic → String
  | .scriptArguments joined | .checkArguments joined => joined
  | .functionReturn code => Text.Decimal.render code.toInt
  | .status _ => ""

/-- A line consists of the words and the value. A template without a placeholder is all words. -/
theorem ofDiagnostic_eq (locale : Locale) (d : Diagnostic) :
    ofDiagnostic locale d = (entryOf d).lead locale ++ valueOf d := by
  cases d with
  | scriptArguments joined => exact ofDiagnostic_scriptArguments locale joined
  | checkArguments joined => exact ofDiagnostic_checkArguments locale joined
  | functionReturn code => exact ofDiagnostic_functionReturn locale code
  | status outcome =>
    have hwords (entry : Entry) (h : entry = .statusSuccess ∨ entry = .statusFailure) :
        entry.template locale = entry.lead locale ++ "" := by
      rcases h with rfl | rfl <;> cases locale <;> decide
    cases outcome with
    | success => exact (say_nil locale _).trans (hwords _ (.inl rfl))
    | failure => exact (say_nil locale _).trans (hwords _ (.inr rfl))

/-! ## Lines of different diagnostics -/

/-- The entries that give lines their words. -/
def lineEntries : List Entry :=
  [.scriptArguments, .checkArguments, .functionReturn, .statusSuccess, .statusFailure]

theorem entryOf_mem_lineEntries (d : Diagnostic) : entryOf d ∈ lineEntries := by
  cases d with
  | status outcome => cases outcome <;> simp [entryOf, lineEntries]
  | _ => simp [entryOf, lineEntries]

/-- In no locale do the words of a line begin with those of another. -/
theorem eq_of_lead_begins (locale : Locale) :
    ∀ e ∈ lineEntries, ∀ e' ∈ lineEntries,
      (e.lead locale).toList <+: (e'.lead locale).toList → e = e' := by
  cases locale <;> decide +kernel

/-- Whatever follows them, the words of a line tell which entry they come from. -/
theorem entryOf_eq_of_ofDiagnostic_eq {locale : Locale} {d d' : Diagnostic}
    (h : ofDiagnostic locale d = ofDiagnostic locale d') : entryOf d = entryOf d' := by
  have hd := entryOf_mem_lineEntries d
  have hd' := entryOf_mem_lineEntries d'
  have hlines : ((entryOf d).lead locale).toList ++ (valueOf d).toList =
      ((entryOf d').lead locale).toList ++ (valueOf d').toList := by
    rw [← String.toList_append, ← String.toList_append, ← ofDiagnostic_eq, ← ofDiagnostic_eq, h]
  have hprefix := List.prefix_append ((entryOf d).lead locale).toList (valueOf d).toList
  have hprefix' := List.prefix_append ((entryOf d').lead locale).toList (valueOf d').toList
  rw [hlines] at hprefix
  rcases List.prefix_or_prefix_of_prefix hprefix hprefix' with hle | hle
  · exact eq_of_lead_begins locale _ hd _ hd' hle
  · exact (eq_of_lead_begins locale _ hd' _ hd hle).symm

/-- A diagnostic is determined by the entry of its line and the value in it. -/
theorem eq_of_entryOf_eq : ∀ {d d' : Diagnostic}, entryOf d = entryOf d' → valueOf d = valueOf d' →
    d = d'
  | .scriptArguments _, .scriptArguments _, _, hvalue => congrArg _ hvalue
  | .checkArguments _, .checkArguments _, _, hvalue => congrArg _ hvalue
  | .functionReturn _, .functionReturn _, _, hvalue =>
    congrArg _ (Int32.toInt_inj.1 (Text.Decimal.render_inj.1 hvalue))
  | .status .success, .status .success, _, _ => rfl
  | .status .failure, .status .failure, _, _ => rfl

/-- In each locale a line determines the diagnostic that it is the line of. -/
theorem ofDiagnostic_inj (locale : Locale) (d d' : Diagnostic) :
    ofDiagnostic locale d = ofDiagnostic locale d' ↔ d = d' := by
  constructor
  · intro h
    have hentry := entryOf_eq_of_ofDiagnostic_eq h
    have hvalue : valueOf d = valueOf d' := by
      rw [ofDiagnostic_eq, ofDiagnostic_eq, hentry, String.append_right_inj] at h
      exact h
    exact eq_of_entryOf_eq hentry hvalue
  · exact congrArg (ofDiagnostic locale)

end GreetingCheck.Message
