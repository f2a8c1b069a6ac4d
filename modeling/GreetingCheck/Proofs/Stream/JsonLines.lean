import GreetingCheck.Collection
import GreetingCheck.Proofs.Record.RoundTrip
import GreetingCheck.Proofs.Session
import GreetingCheck.Proofs.Stream.Lines
import GreetingCheck.Proofs.Stream.Writer
import GreetingCheck.Proofs.Text.Utf8
import GreetingCheck.Stream.Lines

/-!
# Reports as lines of JSON are recovered

Whatever becomes of the writer, the bytes that a session has stored through the sink of JSON lines
are the lines of the diagnostics that got through, one after the other, and then at most a beginning
of one more line (`Recovers`, kept by every call). Since no line holds an end of a line inside,
cutting the bytes at these ends gives back exactly those diagnostics.
-/

namespace GreetingCheck.Lines

open Json

/-! ## Lines -/

/-- A diagnostic as a line of JSON, without the end of the line. -/
def jsonLine (d : Diagnostic) : List UInt8 := Text.Utf8.encode d.encode.toList

/-- The diagnostic that a line is read as. -/
def readLine? (line : List UInt8) : Option Diagnostic :=
  (Text.Utf8.decode? line).bind fun text => (Diagnostic.decode (.ofList text)).toOption

theorem readLine?_jsonLine (d : Diagnostic) : readLine? (jsonLine d) = some d := by
  have hdecode : Diagnostic.decode d.encode = .ok d :=
    Diagnostic.decode_of_spelledBy (spelledBy_compact d.writable_toJson)
  rw [readLine?, jsonLine, Text.Utf8.decode?_encode, Option.bind_some, String.ofList_toList, hdecode]
  rfl

theorem newline_not_mem_jsonLine (d : Diagnostic) : newline ∉ jsonLine d := by
  intro h
  -- a byte that small is a character by itself, and the text has none below the space
  have hchar := Text.Utf8.mem_of_mem_encode (by decide) h
  exact absurd (space_le_of_mem_compact d.writable_toJson _ hchar) (by decide)

/-- Bytes that are cut at the ends of lines are the lines again, with what follows the last of
them. -/
theorem splitOn_lines {lines : List (List UInt8)} {fragment : List UInt8}
    (hlines : ∀ line ∈ lines, newline ∉ line) (hfragment : newline ∉ fragment) :
    (lines.flatMap (· ++ [newline]) ++ fragment).splitOn newline = lines ++ [fragment] := by
  induction lines with
  | nil => exact List.splitOn_eq_singleton hfragment
  | cons line rest ih =>
    rw [List.flatMap_cons, List.append_assoc, List.append_assoc, List.singleton_append,
      List.splitOn_append_cons_self_of_not_mem (hlines line List.mem_cons_self),
      ih fun other hother => hlines other (List.mem_cons_of_mem line hother)]
    rfl

/-! ## One call of the sink -/

variable {faults : Faults}

/-- Writes the line of a diagnostic, with its end. -/
def writeLine (faults : Faults) (d : Diagnostic) (w : Writer) : Except IoError Unit × Writer :=
  w.writeAll faults (jsonLine d ++ [newline])

/-- The sink writes the line, and flushes the writer behind it. -/
theorem carryOut_json (locale : Locale) (stream : String) (d : Diagnostic) (w : Writer) :
    ((json locale stream faults).emit d).carryOut w =
      match writeLine faults d w with
      | (.ok (), w') => ((w'.flush faults).1.mapError fun e => ⟨Message.writeFailed locale stream e⟩,
          (w'.flush faults).2)
      | (.error e, w') => (.error ⟨Message.writeFailed locale stream e⟩, w') := by
  rw [json, jsonTo, carryOut_reported, Output.carryOut_bind, Outlet.carryOut_put_plain]
  rcases h : w.writeAll faults (Text.Utf8.encode d.encode.toList ++ [newline]) with ⟨_ | _, w'⟩ <;>
    rw [writeLine, jsonLine, h]
  · rfl
  · rfl

/-- A call was accepted, or failed only in the flush: the write of its line succeeded. -/
def Kept (faults : Faults) (call : Call Writer) : Bool :=
  call.answer.isOk || (writeLine faults call.diagnostic call.before).1.isOk

theorem stored_json (faults : Faults) (locale : Locale) (stream : String) (d : Diagnostic)
    (w : Writer) :
    (((json locale stream faults).emit d).carryOut w).2.stored = (writeLine faults d w).2.stored := by
  rw [carryOut_json]
  rcases writeLine faults d w with ⟨_ | _, w'⟩
  · rfl
  · exact Writer.stored_flush faults w'

theorem kept_json (faults : Faults) (locale : Locale) (stream : String) (d : Diagnostic)
    (w : Writer) :
    Kept faults ⟨w, d, (((json locale stream faults).emit d).carryOut w).1⟩ =
      (writeLine faults d w).1.isOk := by
  rw [Kept, carryOut_json]
  rcases writeLine faults d w with ⟨_ | _, w'⟩
  · rfl
  · exact Bool.or_true _

/-! ## What the sink has stored -/

/-- The diagnostics that got through, in their order. -/
def recovered (faults : Faults) (calls : List (Call Writer)) : List Diagnostic :=
  (calls.filter (Kept faults)).map Call.diagnostic

/-- A writer holds the lines of what got through, and then at most a beginning of the line of a call
that failed; if there is one, the writer has no room left. -/
def Recovers (faults : Faults) (w : Writer) (calls : List (Call Writer)) : Prop :=
  ∃ fragment, w.stored = ((recovered faults calls).map jsonLine).flatMap (· ++ [newline]) ++ fragment ∧
    (fragment = [] ∨ w.Spent faults ∧
      ∃ call ∈ calls, Kept faults call = false ∧ fragment <+: jsonLine call.diagnostic)

private theorem recovered_concat (calls : List (Call Writer)) (call : Call Writer) :
    recovered faults (calls ++ [call]) =
      recovered faults calls ++ if Kept faults call then [call.diagnostic] else [] := by
  rw [recovered, List.filter_append, List.map_append]
  cases h : Kept faults call <;> simp [recovered, h]

/-- A write that stops short of the end of a line leaves a beginning of the line. -/
private theorem prefix_of_append_eq {line taken left : List UInt8}
    (h : line ++ [newline] = taken ++ left) (hleft : left ≠ []) : taken <+: line := by
  obtain ⟨init, last, rfl⟩ : ∃ init last, left = init ++ [last] :=
    ⟨left.dropLast, left.getLast hleft, (List.dropLast_concat_getLast hleft).symm⟩
  rw [← List.append_assoc] at h
  exact ⟨init, (List.append_inj_left' h rfl).symm⟩

/-- A call that succeeds in writing its line adds the line, and any other one adds nothing but a
fragment, and that only where there was none. -/
theorem recovers_emit (locale : Locale) (stream : String) (d : Diagnostic) {w : Writer}
    {calls : List (Call Writer)} (h : Recovers faults w calls) :
    Recovers faults (((json locale stream faults).emit d).carryOut w).2
      (calls ++ [⟨w, d, (((json locale stream faults).emit d).carryOut w).1⟩]) := by
  obtain ⟨fragment, hstored, hfragment⟩ := h
  obtain ⟨taken, left, hline, hwrote⟩ := Writer.wrote_writeAll faults (jsonLine d ++ [newline]) w
  have hsame := stored_json faults locale stream d w
  have hafter := hsame.trans hwrote.stored
  have hkept := kept_json faults locale stream d w
  generalize ((json locale stream faults).emit d).carryOut w = result at hsame hafter hkept ⊢
  obtain ⟨answer, w'⟩ := result
  by_cases hleft : left = []
  · -- the whole line was stored: there was room, and so no fragment in front of it
    have hwritten : (writeLine faults d w).1 = .ok () := hwrote.succeeds.2 hleft
    replace hkept : Kept faults ⟨w, d, answer⟩ = true := hkept.trans (congrArg Except.isOk hwritten)
    rw [hleft, List.append_nil] at hline
    rcases hfragment with rfl | ⟨hspent, _⟩
    · refine ⟨[], ?_, .inl rfl⟩
      rw [hafter, hstored, recovered_concat, if_pos hkept, ← hline]
      simp
    · exact absurd hspent (hwrote.room (by simp [← hline]))
  · -- the write stopped short, and nothing got through
    have hwritten : (writeLine faults d w).1.isOk = false := by
      cases hresult : (writeLine faults d w).1 with
      | error => rfl
      | ok => exact absurd (hwrote.succeeds.1 hresult) hleft
    rw [hwritten] at hkept
    rw [Recovers, recovered_concat, if_neg (by simp [hkept]), List.append_nil]
    by_cases htaken : taken = []
    · rw [htaken, List.append_nil] at hafter
      refine ⟨fragment, hafter.trans hstored, hfragment.imp_right ?_⟩
      -- a fragment that was there before stays the only one
      intro h
      rcases h with ⟨hspent, call, hcall, hlost⟩
      exact ⟨hspent.of_stored_eq hafter, call, List.mem_append_left _ hcall, hlost⟩
    · rcases hfragment with rfl | ⟨hspent, _⟩
      · rw [List.append_nil] at hstored
        refine ⟨taken, by rw [hafter, hstored], .inr ⟨?_, ?_⟩⟩
        · rcases hwrote.stops hleft with hspent | ⟨_, hnone⟩
          · exact hspent.of_stored_eq hsame
          · exact absurd hnone htaken
        · exact ⟨_, List.mem_append_right _ (List.mem_singleton_self _), hkept,
            prefix_of_append_eq hline hleft⟩
      · exact absurd hspent (hwrote.room htaken)

/-- Cutting what a writer holds at the ends of the lines gives back what got through. -/
theorem Recovers.splitOn {w : Writer} {calls : List (Call Writer)} (h : Recovers faults w calls) :
    ∃ lines fragment, w.stored.splitOn newline = lines ++ [fragment] ∧
      lines.map readLine? = (recovered faults calls).map some ∧
      (fragment = [] ∨ ∃ call ∈ calls, Kept faults call = false ∧
        fragment <+: jsonLine call.diagnostic) := by
  obtain ⟨fragment, hstored, hfragment⟩ := h
  refine ⟨(recovered faults calls).map jsonLine, fragment, ?_, ?_, hfragment.imp_right And.right⟩
  · rw [hstored]
    refine splitOn_lines ?_ ?_
    · intro line hline
      obtain ⟨d, _, rfl⟩ := List.mem_map.1 hline
      exact newline_not_mem_jsonLine d
    · rcases hfragment with rfl | ⟨_, call, _, _, hbegins⟩
      · exact List.not_mem_nil
      · exact fun hmem => newline_not_mem_jsonLine call.diagnostic (hbegins.subset hmem)
  · rw [List.map_map]
    exact List.map_congr_left fun d _ => readLine?_jsonLine d

/-! ## Writers that never fail -/

/-- Every line is accepted. -/
theorem accepted_of_reliable (h : faults.Reliable) (locale : Locale) (stream : String)
    (d : Diagnostic) (w : Writer) :
    (((json locale stream faults).emit d).carryOut w).1 = .ok () := by
  have hwritten : (writeLine faults d w).1 = .ok () := Writer.writeAll_eq_ok h _ w
  rw [carryOut_json]
  rcases hresult : writeLine faults d w with ⟨_ | _, w'⟩
  · rw [hresult] at hwritten
    cases hwritten
  · show ((w'.flush faults).1.mapError _) = .ok ()
    rw [Writer.flush_eq_ok h.flushFault]
    rfl

/-- What gets through to it is what a list of the diagnostics would hold. -/
theorem related_unlimited (h : faults.Reliable) (locale : Locale) (stream : String) :
    (json locale stream faults).recorded.Related (fun s kept => recovered faults s.2 = kept)
      Collection.unlimited := by
  intro d s kept hkept
  subst hkept
  rcases s with ⟨w, calls⟩
  have haccepted := accepted_of_reliable h locale stream d w
  refine ⟨?_, ?_⟩
  · show (((json locale stream faults).emit d).carryOut w).1.isOk = _
    rw [haccepted]
    rfl
  · show recovered faults (calls ++ [⟨w, d, (((json locale stream faults).emit d).carryOut w).1⟩]) =
      recovered faults calls ++ [d]
    rw [haccepted, recovered_concat]
    rfl

/-! ## Whole sessions -/

/-- After any session over a fresh writer with any faults, cutting the stored bytes at the ends of
the lines and reading each line gives the diagnostics whose call was accepted or failed only in the
flush. What may follow the last line is a beginning of the line of a call that failed. With a writer
that never fails these are the diagnostics that a list would have kept. -/
theorem json_session_recovered (stream : String) (faults : Faults) (interruptNext : Bool)
    (chosen : Option Locale) (steps : List Step) :
    let sink := fun locale => json locale stream faults
    let fresh : Writer := { interruptNext }
    let stored := (Session.after sink ⟨chosen, fresh⟩ steps).sink.stored
    let calls :=
      (Session.after (fun locale => (sink locale).recorded) ⟨chosen, fresh, []⟩ steps).sink.2
    (∃ lines fragment, stored.splitOn newline = lines ++ [fragment] ∧
      lines.map readLine? = (recovered faults calls).map some ∧
      (fragment = [] ∨ ∃ call ∈ calls, Kept faults call = false ∧
        fragment <+: jsonLine call.diagnostic)) ∧
    (faults.Reliable → recovered faults calls =
      (Session.after (fun _ => Collection.unlimited) ⟨chosen, []⟩ steps).sink) := by
  intro sink fresh stored calls
  have hsame := Session.after_recorded sink ⟨chosen, fresh⟩ [] steps
  have hkeeps : ∀ locale d (s : Writer × List (Call Writer)), Recovers faults s.1 s.2 →
      Recovers faults (((sink locale).recorded.emit d).carryOut s).2.1
        (((sink locale).recorded.emit d).carryOut s).2.2 :=
    fun locale d _ h => recovers_emit locale stream d h
  have hstart : Recovers faults fresh [] := ⟨[], rfl, .inl rfl⟩
  have hend : Recovers faults (Session.after (fun locale => (sink locale).recorded)
      ⟨chosen, fresh, []⟩ steps).sink.1 calls :=
    Session.after_invariant (P := fun s : Writer × List (Call Writer) => Recovers faults s.1 s.2)
      hkeeps hstart steps
  rw [hsame] at hend
  exact ⟨hend.splitOn, fun h =>
    Session.after_related (fun locale => related_unlimited h locale stream) rfl rfl steps⟩

/-- A writer that takes three bytes at a time and interrupts every other call gets everything. -/
theorem json_session_recovered_piecemeal :
    let faults : Faults := { chunk := some 3, interrupts := true }
    faults.Reliable ∧ recovered faults (Session.after
        (fun locale => (json locale "stdout" faults).recorded) ⟨none, {}, []⟩
        [.emit (.status .failure), .checkWithReport ⟨["hello"]⟩]).sink.2 =
      [.status .failure, .checkArguments "hello", .functionReturn 0] :=
  have h : Faults.Reliable { chunk := some 3, interrupts := true } := ⟨rfl, by decide, rfl⟩
  ⟨h, (json_session_recovered "stdout" _ true none _).2 h⟩

end GreetingCheck.Lines
