import GreetingCheck.Proofs.Message
import GreetingCheck.Proofs.Stream.Lines
import GreetingCheck.Proofs.Text.Utf8

/-!
# The lines that a reader of a report finds

A reader cuts a report at its newlines. Bytes that are cut there are the bytes of the text that is
cut there (`splitOn_encode`), and so a report is found to consist of the lines of its diagnostics
(`splitOn_lines_text`). A diagnostic is one line unless it echoes arguments with a newline in them
(`newline_mem_ofDiagnostic_iff`), which are written as they are: each such newline makes a line more
in both of the echoes.
-/

namespace GreetingCheck

/-! ## Newlines in the words of a report -/

theorem Text.Decimal.newline_not_mem_render (i : Int) : '\n' ∉ (render i).toList := by
  have hdigits : '\n' ∉ digits i.natAbs := by
    intro h
    exact absurd (isDigit_of_mem_digits h) (by decide)
  have hsign : ¬ '\n' = '-' := by decide
  rw [render, String.toList_ofList, write]
  split
  · rw [List.mem_cons, not_or]
    exact ⟨hsign, hdigits⟩
  · exact hdigits

/-- Between the parts of a text there is nothing to count if there is nothing in the separator. -/
theorem Text.count_intercalate {c : Char} {separator : List Char} (h : separator.count c = 0)
    (parts : List (List Char)) :
    (separator.intercalate parts).count c = (parts.map (List.count c)).sum := by
  induction parts with
  | nil => rfl
  | cons first rest ih =>
    cases rest with
    | nil => rw [List.intercalate_singleton, List.map_singleton, List.sum_singleton]
    | cons second rest =>
      rw [List.intercalate_cons_cons, List.count_append, List.count_append, h, ih, Nat.add_zero]
      rfl

/-- Arguments that are joined have the newlines of each of them. -/
theorem Arguments.count_joined (args : Arguments) :
    args.joined.toList.count '\n' = (args.toList.map (·.toList.count '\n')).sum := by
  rw [joined, String.toList_intercalate, Text.count_intercalate (by decide), List.map_map]
  rfl

/-- Joined arguments have no newline if none of them has one. -/
theorem Arguments.newline_not_mem_joined {args : Arguments}
    (h : ∀ arg ∈ args.toList, '\n' ∉ arg.toList) : '\n' ∉ args.joined.toList := by
  have hsum : (args.toList.map (·.toList.count '\n')).sum = 0 := by
    rw [List.sum_eq_zero_iff_forall_eq_nat]
    intro n hn
    obtain ⟨arg, harg, rfl⟩ := List.mem_map.1 hn
    exact List.count_eq_zero_of_not_mem (h arg harg)
  rw [← List.count_eq_zero, args.count_joined, hsum]

/-- The newlines in what a diagnostic echoes. -/
def Diagnostic.newlines : Diagnostic → Nat
  | .scriptArguments joined => joined.toList.count '\n'
  | .checkArguments joined => joined.toList.count '\n'
  | .functionReturn _ => 0
  | .status _ => 0

namespace Message

open Catalog

theorem count_lead (locale : Locale) :
    ∀ entry ∈ lineEntries, (entry.lead locale).toList.count '\n' = 0 := by
  cases locale <;> decide

theorem count_valueOf (d : Diagnostic) : (valueOf d).toList.count '\n' = d.newlines := by
  cases d with
  | functionReturn code =>
    exact List.count_eq_zero_of_not_mem (Text.Decimal.newline_not_mem_render code.toInt)
  | _ => rfl

/-- The words around it have no newlines in them. -/
theorem count_ofDiagnostic (locale : Locale) (d : Diagnostic) :
    (ofDiagnostic locale d).toList.count '\n' = d.newlines := by
  rw [ofDiagnostic_eq, String.toList_append, List.count_append,
    count_lead locale _ (entryOf_mem_lineEntries d), count_valueOf, Nat.zero_add]

theorem newline_not_mem_ofDiagnostic {locale : Locale} {d : Diagnostic} (h : d.newlines = 0) :
    '\n' ∉ (ofDiagnostic locale d).toList := by
  rw [← List.count_eq_zero, count_ofDiagnostic, h]

/-- The only diagnostics with newlines in them are the echoes of arguments with newlines in them. -/
theorem newline_mem_ofDiagnostic_iff (locale : Locale) (d : Diagnostic) :
    '\n' ∈ (ofDiagnostic locale d).toList ↔
      ∃ joined, (d = .scriptArguments joined ∨ d = .checkArguments joined) ∧
        '\n' ∈ joined.toList := by
  rw [← List.count_pos_iff, count_ofDiagnostic]
  cases d <;> simp [Diagnostic.newlines, List.count_pos_iff]

end Message

namespace Lines

open Text Text.Utf8

/-! ## Cutting bytes and cutting text -/

theorem newline_mem_encode_iff {text : List Char} : newline ∈ encode text ↔ '\n' ∈ text := by
  constructor
  · exact mem_of_mem_encode (by decide)
  · intro h
    exact List.mem_flatMap.2 ⟨'\n', h, by decide⟩

theorem encode_append (front back : List Char) :
    encode (front ++ back) = encode front ++ encode back := List.flatMap_append

/-- The end of a line is the one byte of its character. -/
theorem encode_newline_cons (text : List Char) :
    encode ('\n' :: text) = newline :: encode text := rfl

theorem splitOn_encode (text : List Char) :
    (encode text).splitOn newline = (text.splitOn '\n').map encode := by
  -- what stands in front of the first newline grows until that is found
  suffices h : ∀ front, '\n' ∉ front →
      (encode (front ++ text)).splitOn newline = ((front ++ text).splitOn '\n').map encode by
    exact h [] List.not_mem_nil
  induction text with
  | nil =>
    intro front hfront
    have hbytes : newline ∉ encode front := mt newline_mem_encode_iff.1 hfront
    rw [List.append_nil, List.splitOn_eq_singleton hbytes, List.splitOn_eq_singleton hfront]
    rfl
  | cons c text ih =>
    intro front hfront
    by_cases hc : c = '\n'
    · have hbytes : newline ∉ encode front := mt newline_mem_encode_iff.1 hfront
      have hrest := ih [] List.not_mem_nil
      rw [List.nil_append] at hrest
      rw [hc, encode_append, encode_newline_cons, List.splitOn_append_cons_self_of_not_mem hbytes,
        List.splitOn_append_cons_self_of_not_mem hfront, List.map_cons, hrest]
    · have hlonger : '\n' ∉ front ++ [c] := by
        simp [hfront, Ne.symm hc]
      have hrest := ih (front ++ [c]) hlonger
      rwa [List.append_assoc] at hrest

theorem count_encode (text : List Char) : (encode text).count newline = text.count '\n' := by
  induction text with
  | nil => rfl
  | cons c text ih =>
    by_cases hc : c = '\n'
    · rw [hc, encode_newline_cons, List.count_cons_self, List.count_cons_self, ih]
    · have hbytes : newline ∉ encode [c] := by
        rw [newline_mem_encode_iff, List.mem_singleton]
        exact Ne.symm hc
      have hsplit : encode (c :: text) = encode [c] ++ encode text := encode_append [c] text
      rw [hsplit, List.count_append, List.count_eq_zero_of_not_mem hbytes, Nat.zero_add, ih,
        List.count_cons_of_ne hc]

/-! ## Cutting a report -/

/-- The lines that some words consist of, as bytes. -/
def rows (words : String) : List (List UInt8) := (words.toList.splitOn '\n').map encode

theorem rows_of_newline_not_mem {words : String} (h : '\n' ∉ words.toList) :
    rows words = [encode words.toList] := by
  rw [rows, List.splitOn_eq_singleton h]
  rfl

/-- A report is cut into the lines of its diagnostics, and nothing is behind the last one. -/
theorem splitOn_lines_text (locale : Locale) (ds : List Diagnostic) :
    (lines .text locale ds).splitOn newline =
      ds.flatMap (fun d => rows (Message.ofDiagnostic locale d)) ++ [[]] := by
  induction ds with
  | nil => exact List.splitOn_nil newline
  | cons d rest ih =>
    have hlines : lines .text locale (d :: rest) =
        encode (Message.ofDiagnostic locale d).toList ++ newline :: lines .text locale rest :=
      List.append_assoc _ [newline] _
    rw [hlines, List.splitOn_append_cons_self, splitOn_encode, ih, List.flatMap_cons,
      List.append_assoc]
    rfl

theorem count_lines_text (locale : Locale) (ds : List Diagnostic) :
    (lines .text locale ds).count newline = (ds.map fun d => d.newlines + 1).sum := by
  induction ds with
  | nil => rfl
  | cons d rest ih =>
    have hlines : lines .text locale (d :: rest) =
        encode (Message.ofDiagnostic locale d).toList ++ ([newline] ++ lines .text locale rest) :=
      List.append_assoc _ [newline] _
    rw [hlines, List.count_append, List.count_append, count_encode, Message.count_ofDiagnostic,
      List.count_singleton_self, ih, List.map_cons, List.sum_cons, Nat.add_assoc]

/-- The lines of a report: those of the arguments behind the words in front of them, twice, and then
one line each for the code and the status. -/
theorem splitOn_report (locale : Locale) (args : Arguments) :
    (lines .text locale args.reportPlan).splitOn newline =
      rows (Catalog.Entry.scriptArguments.lead locale ++ args.joined) ++
        (rows (Catalog.Entry.checkArguments.lead locale ++ args.joined) ++
          [encode (Message.ofDiagnostic locale (.functionReturn args.check.returnCode)).toList,
            encode (Message.ofDiagnostic locale (.status args.check)).toList, []]) := by
  have hreturn : '\n' ∉
      (Message.ofDiagnostic locale (.functionReturn args.check.returnCode)).toList :=
    Message.newline_not_mem_ofDiagnostic rfl
  have hstatus : '\n' ∉ (Message.ofDiagnostic locale (.status args.check)).toList :=
    Message.newline_not_mem_ofDiagnostic rfl
  rw [splitOn_lines_text, Arguments.reportPlan, Arguments.checkPlan]
  simp only [List.cons_append, List.nil_append, List.flatMap_cons, List.flatMap_nil,
    List.append_nil, List.append_assoc]
  rw [rows_of_newline_not_mem hreturn, rows_of_newline_not_mem hstatus,
    Message.ofDiagnostic_scriptArguments, Message.ofDiagnostic_checkArguments]
  rfl

theorem count_report (locale : Locale) (args : Arguments) :
    (lines .text locale args.reportPlan).count newline =
      4 + 2 * (args.toList.map (·.toList.count '\n')).sum := by
  have hplan : (args.reportPlan.map fun d => d.newlines + 1).sum =
      (args.joined.toList.count '\n' + 1) + ((args.joined.toList.count '\n' + 1) +
        ((0 + 1) + ((0 + 1) + 0))) := rfl
  rw [count_lines_text, hplan, ← args.count_joined]
  omega

/-- A report in text on a writer that takes everything is four lines and those that the newlines in
its arguments add, each of which stands in both of the echoes. -/
theorem text_report_lines (args : Arguments) (locale : Locale) (stream : String) {faults : Faults}
    (h : faults.Reliable) (w : Writer) :
    ∃ w' report,
      (runReport (text locale stream faults) args).carryOut w = (.ok args.check, w') ∧
      w'.stored = w.stored ++ report ∧
      let echo := Catalog.Entry.scriptArguments.lead locale ++ args.joined
      let echo' := Catalog.Entry.checkArguments.lead locale ++ args.joined
      let code := Message.ofDiagnostic locale (.functionReturn args.check.returnCode)
      let status := Message.ofDiagnostic locale (.status args.check)
      report.splitOn newline =
        rows echo ++ (rows echo' ++ [encode code.toList, encode status.toList, []]) ∧
      report.count newline = 4 + 2 * (args.toList.map (·.toList.count '\n')).sum ∧
      ((∀ arg ∈ args.toList, '\n' ∉ arg.toList) →
        report.splitOn newline = [encode echo.toList, encode echo'.toList, encode code.toList,
          encode status.toList, []]) ∧
      ∀ d, '\n' ∈ (Message.ofDiagnostic locale d).toList ↔
        ∃ joined, (d = .scriptArguments joined ∨ d = .checkArguments joined) ∧
          '\n' ∈ joined.toList := by
  obtain ⟨w', hall, hstored⟩ : ∃ w',
      ((ofFormat .text locale stream faults).emitAll args.reportPlan).carryOut w = (.ok (), w') ∧
        w'.stored = w.stored ++ lines .text locale args.reportPlan :=
    emitAll_of_reliable h args.reportPlan w
  refine ⟨w', lines .text locale args.reportPlan, ?_, hstored, splitOn_report locale args,
    count_report locale args, ?_, Message.newline_mem_ofDiagnostic_iff locale⟩
  · show (runReport (ofFormat .text locale stream faults) args).carryOut w = _
    rw [runReport_eq, Emission.carryOut_then_pure, hall]
    rfl
  · intro hargs
    have hnone := List.count_eq_zero_of_not_mem (Arguments.newline_not_mem_joined hargs)
    have hecho := @Message.newline_not_mem_ofDiagnostic locale (.scriptArguments args.joined) hnone
    have hecho' := @Message.newline_not_mem_ofDiagnostic locale (.checkArguments args.joined) hnone
    rw [Message.ofDiagnostic_scriptArguments] at hecho
    rw [Message.ofDiagnostic_checkArguments] at hecho'
    rw [splitOn_report, rows_of_newline_not_mem hecho, rows_of_newline_not_mem hecho']
    rfl

/-- The second of two arguments has a newline in it, and the report has six lines. -/
theorem text_report_lines_newline :
    ∃ w' report,
      (runReport (text .english "stdout" .none) ⟨["hello", "a\nb"]⟩).carryOut {} =
        (.ok .success, w') ∧ w'.stored = report ∧
      report.splitOn newline = ["script arguments are: hello a", "b",
        "test_gpu arguments are: hello a", "b", "Function will return 0", "SUCCESS", ""].map
          (encode ·.toList) ∧
      report.count newline = 6 := by
  obtain ⟨w', report, hrun, hstored, hlines, hcount, -⟩ :=
    text_report_lines ⟨["hello", "a\nb"]⟩ .english "stdout" Faults.reliable_none {}
  refine ⟨w', report, hrun, hstored, ?_, hcount⟩
  rw [hlines]
  decide +kernel

/-- Not every report in text has four lines. -/
theorem not_forall_text_report_four_lines :
    ¬ ∀ (args : Arguments) (locale : Locale),
      ((runReport (text locale "stdout" .none) args).carryOut {}).2.stored.count newline = 4 := by
  intro h
  have hcount := h ⟨["a\nb"]⟩ .english
  exact absurd hcount (by decide +kernel)

end Lines

end GreetingCheck
