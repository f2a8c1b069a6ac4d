import GreetingCheck.CommandLine.Item
import GreetingCheck.Proofs.Report.Handover
import GreetingCheck.Proofs.Stream.Outlet
import GreetingCheck.Stream.Lines

/-!
# The lines of a report

The two sinks over a writer differ in the words of a line (`line`) and in nothing else: each writes
the line with its end and then flushes, and it makes no difference that the sink of text lines
writes the end by itself (`carryOut_putLine`). `carryOut_emit` says what a diagnostic comes to on a
writer of known faults. Of an outlet only its answers need be known: `emitAll_of_ok`,
`emitAll_of_accepts` and `emitAll_of_fails` say what these make of a list.
-/

namespace GreetingCheck.Lines

open CommandLine Output

/-! ## Lines -/

/-- The sink that writes diagnostics in a form. -/
def ofFormat (format : Format) (locale : Locale) (stream : String) (faults : Faults) : Sink Writer :=
  match format with
  | .text => text locale stream faults
  | .json => json locale stream faults

/-- The bytes of a line with its end. -/
def ended (words : String) : List UInt8 := Text.Utf8.encode words.toList ++ [newline]

/-- The words of a diagnostic in a form. -/
def words (format : Format) (locale : Locale) (d : Diagnostic) : String :=
  match format with
  | .text => Message.ofDiagnostic locale d
  | .json => d.encode

/-- A diagnostic as a complete line. -/
def line (format : Format) (locale : Locale) (d : Diagnostic) : List UInt8 :=
  ended (words format locale d)

/-- Diagnostics as complete lines, one behind the other. -/
def lines (format : Format) (locale : Locale) (ds : List Diagnostic) : List UInt8 :=
  ds.flatMap (line format locale)

@[simp] theorem ended_ne_nil (words : String) : ended words ≠ [] := by simp [ended]

theorem line_ne_nil (format : Format) (locale : Locale) (d : Diagnostic) :
    line format locale d ≠ [] := ended_ne_nil _

theorem lines_concat (format : Format) (locale : Locale) (ds : List Diagnostic) (d : Diagnostic) :
    lines format locale (ds ++ [d]) = lines format locale ds ++ line format locale d := by
  simp [lines]

/-! ## Writing a line -/

variable {faults : Faults} {w : Writer} {format : Format} {locale : Locale} {stream : String}

/-- An error of the writer is put into words, and nothing else happens to it. -/
theorem carryOut_reported {α : Type} (locale : Locale) (stream : String) (action : Output α)
    (w : Writer) :
    (reported locale stream action).carryOut w =
      ((action.carryOut w).1.mapError fun e => ⟨Message.writeFailed locale stream e⟩,
        (action.carryOut w).2) := rfl

/-- A line and its end are written as if they were one. -/
theorem carryOut_putLine (hchunk : faults.chunk ≠ some 0) (hw : w.Within faults) (words : String) :
    (putLine (.plain faults) words).carryOut w = w.writeAll faults (ended words) := by
  rw [putLine, Output.carryOut_bind, Outlet.carryOut_put_plain, ended,
    ← Writer.writeAll_append hchunk hw]
  rcases w.writeAll faults (Text.Utf8.encode words.toList) with ⟨_ | _, w'⟩ <;> rfl

/-- The rejection that an error of the writer becomes. -/
def failure (locale : Locale) (stream : String) (error : IoError) : Rejection :=
  ⟨Message.writeFailed locale stream error⟩

/-! ## Emitting a diagnostic -/

/-- Both sinks write the line and flush behind it. -/
theorem emit_eq (hchunk : faults.chunk ≠ some 0) (hw : w.Within faults) (d : Diagnostic) :
    ((ofFormat format locale stream faults).emit d).carryOut w =
      (reported locale stream do
        put faults (line format locale d)
        Output.flush faults).carryOut w := by
  cases format with
  | text =>
    show (reported locale stream do
      putLine (.plain faults) (Message.ofDiagnostic locale d)
      Output.flush faults).carryOut w = _
    rw [carryOut_reported, carryOut_reported, Output.carryOut_bind, Output.carryOut_bind,
      carryOut_putLine hchunk hw, Output.carryOut_put]
    rfl
  | json => rfl

/-- A diagnostic is accepted if there is room for its line and its flush does not fail. -/
theorem carryOut_emit (hchunk : faults.chunk ≠ some 0) (hw : w.Within faults) (d : Diagnostic) :
    ((ofFormat format locale stream faults).emit d).carryOut w =
      match faults.verdict (w.stored.length + (line format locale d).length) with
      | .ok () =>
        ((faults.flushVerdict (w.flushes + 1)).mapError (failure locale stream),
          { w.afterWrite faults (line format locale d) with flushes := w.flushes + 1 })
      | .error error =>
        (.error (failure locale stream error), w.afterWrite faults (line format locale d)) := by
  rw [emit_eq hchunk hw, carryOut_reported, Output.carryOut_bind, Output.carryOut_put,
    Writer.writeAll_eq hchunk hw]
  cases faults.verdict (w.stored.length + (line format locale d).length) with
  | error error => rfl
  | ok =>
    have hflush := Writer.flush_eq faults (w.afterWrite faults (line format locale d))
    show (((w.afterWrite faults (line format locale d)).flush faults).1.mapError _,
      ((w.afterWrite faults (line format locale d)).flush faults).2) = _
    rw [hflush]
    rfl

/-! ## Lines through an outlet -/

section

variable {outlet : Outlet} {error : IoError}

/-- The sink that writes diagnostics in a form to an outlet. -/
def sinkTo (format : Format) (locale : Locale) (stream : String) (outlet : Outlet) : Sink Writer :=
  match format with
  | .text => textTo locale stream outlet
  | .json => jsonTo locale stream outlet

theorem sinkTo_plain (format : Format) (locale : Locale) (stream : String) (faults : Faults) :
    sinkTo format locale stream (.plain faults) = ofFormat format locale stream faults := by
  cases format <;> rfl

theorem carryOut_emit_text (locale : Locale) (stream : String) (outlet : Outlet) (d : Diagnostic)
    (w : Writer) :
    ((sinkTo .text locale stream outlet).emit d).carryOut w =
      (reported locale stream do
        putLine outlet (Message.ofDiagnostic locale d)
        outlet.flush).carryOut w := rfl

theorem carryOut_emit_json (locale : Locale) (stream : String) (outlet : Outlet) (d : Diagnostic)
    (w : Writer) :
    ((sinkTo .json locale stream outlet).emit d).carryOut w =
      (reported locale stream do
        outlet.put (ended d.encode)
        outlet.flush).carryOut w := rfl

theorem reported_eq_ok_iff {action : Output Unit} {w' : Writer} :
    (reported locale stream action).carryOut w = (.ok (), w') ↔
      action.carryOut w = (.ok (), w') := by
  rw [carryOut_reported]
  rcases action.carryOut w with ⟨_ | _, w₁⟩ <;> simp [Except.mapError]

/-! ### An outlet that keeps what it accepts -/

theorem putLine_of_ok (h : outlet.Delivers) {words : String} {w' : Writer}
    (hline : (putLine outlet words).carryOut w = (.ok (), w')) :
    w'.stored = w.stored ++ ended words := by
  obtain ⟨_, w₁, hwords, hend⟩ := Output.bind_eq_ok.1 hline
  rw [h.put hend, h.put hwords, ended, List.append_assoc]

/-- A line that was accepted has been stored. -/
theorem line_of_ok (h : outlet.Delivers) {words : String} {w' : Writer}
    (hline : (reported locale stream (putLine outlet words)).carryOut w = (.ok (), w')) :
    w'.stored = w.stored ++ ended words :=
  putLine_of_ok h (reported_eq_ok_iff.1 hline)

/-- A diagnostic that was accepted has been stored as a complete line. -/
theorem emit_of_ok (h : outlet.Delivers) {d : Diagnostic} {w' : Writer}
    (hemit : ((sinkTo format locale stream outlet).emit d).carryOut w = (.ok (), w')) :
    w'.stored = w.stored ++ line format locale d := by
  -- a flush that did not fail has stored nothing
  have hflushed {w₁ : Writer} (hflush : outlet.flush.carryOut w₁ = (.ok (), w')) :
      w'.stored = w₁.stored := by
    rw [← h.flush w₁, hflush]
  cases format with
  | text =>
    rw [carryOut_emit_text, reported_eq_ok_iff, Output.bind_eq_ok] at hemit
    obtain ⟨_, w₁, hline, hflush⟩ := hemit
    rw [hflushed hflush, putLine_of_ok h hline]
    rfl
  | json =>
    rw [carryOut_emit_json, reported_eq_ok_iff, Output.bind_eq_ok] at hemit
    obtain ⟨_, w₁, hput, hflush⟩ := hemit
    rw [hflushed hflush, h.put hput]
    rfl

/-- A list that was accepted has been stored as complete lines. -/
theorem emitAll_of_ok (h : outlet.Delivers) {plan : List Diagnostic} {w' : Writer}
    (hall : ((sinkTo format locale stream outlet).emitAll plan).carryOut w = (.ok (), w')) :
    w'.stored = w.stored ++ lines format locale plan := by
  induction plan generalizing w with
  | nil =>
    cases hall
    exact (List.append_nil _).symm
  | cons d rest ih =>
    rcases hemit : ((sinkTo format locale stream outlet).emit d).carryOut w with ⟨_ | _, w₁⟩
    · rw [Sink.emitAll, Emission.carryOut_bind_error hemit] at hall
      cases hall
    · rw [Sink.emitAll, Emission.carryOut_bind_ok hemit] at hall
      rw [ih hall, emit_of_ok h hemit, lines, lines, List.flatMap_cons, List.append_assoc]

/-! ### An outlet that accepts everything -/

theorem putLine_of_accepts (h : outlet.Accepts) (words : String) (w : Writer) :
    ∃ w', (putLine outlet words).carryOut w = (.ok (), w') := by
  obtain ⟨w₁, hwords⟩ := h.put (Text.Utf8.encode words.toList) w
  obtain ⟨w', hend⟩ := h.put [newline] w₁
  exact ⟨w', Output.bind_eq_ok.2 ⟨(), w₁, hwords, hend⟩⟩

theorem line_of_accepts (h : outlet.Accepts) (words : String) (w : Writer) :
    ∃ w', (reported locale stream (putLine outlet words)).carryOut w = (.ok (), w') := by
  obtain ⟨w', hline⟩ := putLine_of_accepts h words w
  exact ⟨w', reported_eq_ok_iff.2 hline⟩

theorem emit_of_accepts (h : outlet.Accepts) (d : Diagnostic) (w : Writer) :
    ∃ w', ((sinkTo format locale stream outlet).emit d).carryOut w = (.ok (), w') := by
  cases format with
  | text =>
    obtain ⟨w₁, hline⟩ := putLine_of_accepts h (Message.ofDiagnostic locale d) w
    obtain ⟨w', hflush⟩ := h.flush w₁
    refine ⟨w', ?_⟩
    rw [carryOut_emit_text, reported_eq_ok_iff]
    exact Output.bind_eq_ok.2 ⟨(), w₁, hline, hflush⟩
  | json =>
    obtain ⟨w₁, hput⟩ := h.put (ended d.encode) w
    obtain ⟨w', hflush⟩ := h.flush w₁
    refine ⟨w', ?_⟩
    rw [carryOut_emit_json, reported_eq_ok_iff]
    exact Output.bind_eq_ok.2 ⟨(), w₁, hput, hflush⟩

/-- A list gets through, whatever is kept of it. -/
theorem emitAll_of_accepts (h : outlet.Accepts) (plan : List Diagnostic) (w : Writer) :
    ∃ w', ((sinkTo format locale stream outlet).emitAll plan).carryOut w = (.ok (), w') := by
  induction plan generalizing w with
  | nil => exact ⟨w, rfl⟩
  | cons d rest ih =>
    obtain ⟨w₁, hemit⟩ := emit_of_accepts h d w
    obtain ⟨w', hrest⟩ := ih w₁
    exact ⟨w', by rw [Sink.emitAll, Emission.carryOut_bind_ok hemit, hrest]⟩

/-! ### An outlet that leaves something alone -/

end

/-! ## Writers that never fail -/

/-- A reliable writer accepts every list and stores it. -/
theorem emitAll_of_reliable (h : faults.Reliable) (plan : List Diagnostic) (w : Writer) :
    ∃ w', ((ofFormat format locale stream faults).emitAll plan).carryOut w = (.ok (), w') ∧
      w'.stored = w.stored ++ lines format locale plan := by
  rw [← sinkTo_plain]
  obtain ⟨w', hall⟩ := emitAll_of_accepts (Outlet.accepts_plain h) plan w
  exact ⟨w', hall, emitAll_of_ok (Outlet.delivers_plain faults) hall⟩

/-- A report that nothing goes wrong with. -/
theorem stored_report (args : Arguments) :
    ((runReport (ofFormat format locale stream .none) args).carryOut {}).2.stored =
      lines format locale args.reportPlan := by
  obtain ⟨w, hall, hstored⟩ : ∃ w, ((ofFormat format locale stream .none).emitAll
      args.reportPlan).carryOut {} = (.ok (), w) ∧ w.stored = [] ++ lines format locale _ :=
    emitAll_of_reliable Faults.reliable_none _ {}
  rw [runReport_eq, Emission.carryOut_then_pure, hall]
  exact hstored.trans (List.nil_append _)

end GreetingCheck.Lines
