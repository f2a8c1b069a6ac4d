import GreetingCheck.Proofs.Session
import GreetingCheck.Proofs.Stream.Lines

/-!
# The books of a writer

Diagnostics are emitted one after the other into a sink over one writer, and emission goes on after
a failure. `Balanced` relates what the writer holds and how often it was flushed to the diagnostics
emitted so far; an emission keeps the books balanced and its answer follows from them
(`accounted_emit`). Nothing is lost in front of the place where the room ends and nothing is stored
behind it, whether that place is inside a line or between the line and its end.
-/

namespace GreetingCheck.Lines

variable {format : CommandLine.Format} {locale : Locale} {stream : String} {faults : Faults}

/-! ## One emission -/

/-- A writer that holds what it has room for of the lines emitted so far, and was flushed once for
each of these that it holds completely. -/
structure Balanced (format : CommandLine.Format) (locale : Locale) (faults : Faults)
    (emitted : List Diagnostic) (w : Writer) : Prop where
  stored : w.stored = faults.cut (lines format locale emitted)
  flushes : w.flushes = (List.range emitted.length).countP fun i =>
    lines format locale (emitted.take (i + 1)) <+: w.stored

/-- The answer to the last of some emissions and the writer behind it. -/
structure Accounted (format : CommandLine.Format) (locale : Locale) (stream : String)
    (faults : Faults) (emitted : List Diagnostic) (answer : Except Rejection Unit) (w : Writer) :
    Prop extends Balanced format locale faults emitted w where
  accepted : answer = .ok () ↔ lines format locale emitted <+: w.stored ∧
    ∀ fault, faults.flushFault = some fault → w.flushes ≠ fault.turn
  /-- A rejection tells the error of the writer that is full or of the flush that failed. -/
  rejected : ∀ rejection, answer = .error rejection → ∃ error,
    rejection = ⟨Message.writeFailed locale stream error⟩ ∧
      if lines format locale emitted <+: w.stored then faults.flushFault = some ⟨w.flushes, error⟩
      else ∃ room, faults.room = some room ∧
        match room.whenFull with
        | .refuse => error.message = "failed to write whole buffer"
        | .fail given _ => error = given

/-- The lines of the first of some diagnostics come first among the lines of all. -/
theorem lines_take_begins (ds : List Diagnostic) (n : Nat) :
    lines format locale (ds.take n) <+: lines format locale ds := by
  refine ⟨lines format locale (ds.drop n), ?_⟩
  rw [lines, lines, ← List.flatMap_append, List.take_append_drop]
  rfl

theorem Balanced.within {emitted : List Diagnostic} {w : Writer}
    (h : Balanced format locale faults emitted w) : w.Within faults := by
  rw [Writer.Within, h.stored, Faults.cut_cut]

/-- A line that was complete stays so, and one that was not is never completed. -/
theorem complete_concat_iff (emitted : List Diagnostic) (d : Diagnostic) {n : Nat}
    (hn : n ≤ emitted.length) :
    lines format locale ((emitted ++ [d]).take n) <+:
        faults.cut (lines format locale (emitted ++ [d])) ↔
      lines format locale (emitted.take n) <+: faults.cut (lines format locale emitted) := by
  rw [Faults.prefix_cut_iff (lines_take_begins _ n), Faults.prefix_cut_iff (lines_take_begins _ n),
    List.take_append_of_le_length hn]

/-- The number of complete lines grows by one if the last one is complete. -/
theorem count_complete_concat (emitted : List Diagnostic) (d : Diagnostic) :
    ((List.range (emitted ++ [d]).length).countP fun i =>
        lines format locale ((emitted ++ [d]).take (i + 1)) <+:
          faults.cut (lines format locale (emitted ++ [d]))) =
      ((List.range emitted.length).countP fun i =>
          lines format locale (emitted.take (i + 1)) <+: faults.cut (lines format locale emitted)) +
        if lines format locale (emitted ++ [d]) <+: faults.cut (lines format locale (emitted ++ [d]))
        then 1 else 0 := by
  have hlength : (emitted ++ [d]).length = emitted.length + 1 := List.length_append
  rw [hlength, List.range_succ, List.countP_append, List.countP_singleton]
  congr 1
  · apply List.countP_congr
    intro i hi
    rw [List.mem_range] at hi
    rw [decide_eq_true_iff, decide_eq_true_iff]
    exact complete_concat_iff emitted d hi
  · rw [List.take_of_length_le (Nat.le_of_eq hlength)]
    simp only [decide_eq_true_eq]

theorem Balanced.fresh (format : CommandLine.Format) (locale : Locale) (faults : Faults)
    (interruptNext : Bool) : Balanced format locale faults [] { interruptNext } :=
  ⟨(faults.cut_nil).symm, rfl⟩

/-- Writing one more line keeps the books balanced if the writer is flushed behind a complete one. -/
theorem Balanced.afterLine {emitted : List Diagnostic} {w w' : Writer}
    (h : Balanced format locale faults emitted w) (d : Diagnostic)
    (hstored : w'.stored = faults.cut (w.stored ++ line format locale d))
    (hflushes : w'.flushes =
      w.flushes + if lines format locale (emitted ++ [d]) <+: w'.stored then 1 else 0) :
    Balanced format locale faults (emitted ++ [d]) w' := by
  have hlines : w'.stored = faults.cut (lines format locale (emitted ++ [d])) := by
    rw [hstored, h.stored, Faults.cut_cut_append, lines_concat]
  refine ⟨hlines, ?_⟩
  rw [hflushes, h.flushes, h.stored, hlines, count_complete_concat]

/-- A writer that holds everything answers with what becomes of the flush. -/
theorem Balanced.accounted_of_flush {emitted : List Diagnostic} {w : Writer}
    (h : Balanced format locale faults emitted w)
    (hwhole : lines format locale emitted <+: w.stored) :
    Accounted format locale stream faults emitted
      ((faults.flushVerdict w.flushes).mapError (failure locale stream)) w := by
  refine ⟨h, ?_, ?_⟩
  · rw [← Faults.flushVerdict_eq_ok_iff]
    cases faults.flushVerdict w.flushes with
    | ok => simp [hwhole, Except.mapError]
    | error error => simp [Except.mapError]
  · intro rejection hrejection
    cases hflush : faults.flushVerdict w.flushes with
    | ok =>
      rw [hflush] at hrejection
      cases hrejection
    | error error =>
      rw [hflush] at hrejection
      cases hrejection
      refine ⟨error, rfl, ?_⟩
      rw [if_pos hwhole]
      exact Faults.flushFault_of_flushVerdict hflush

/-- A writer that does not hold everything answers with its error for being full. -/
theorem Balanced.accounted_of_full {emitted : List Diagnostic} {w : Writer}
    (h : Balanced format locale faults emitted w)
    (hpart : ¬ lines format locale emitted <+: w.stored) {room : Room}
    (hroom : faults.room = some room) :
    Accounted format locale stream faults emitted
      (.error (failure locale stream room.whenFull.error)) w := by
  refine ⟨h, ?_, ?_⟩
  · simp [hpart]
  · intro rejection hrejection
    cases hrejection
    refine ⟨_, rfl, ?_⟩
    rw [if_neg hpart]
    refine ⟨room, hroom, ?_⟩
    cases room.whenFull with
    | refuse => rfl
    | fail given hfinal => rfl

/-- An emission keeps the books balanced, and its answer follows from them. -/
theorem accounted_emit (hchunk : faults.chunk ≠ some 0) {emitted : List Diagnostic} {w : Writer}
    (h : Balanced format locale faults emitted w) (d : Diagnostic) :
    Accounted format locale stream faults (emitted ++ [d])
      (((ofFormat format locale stream faults).emit d).carryOut w).1
      (((ofFormat format locale stream faults).emit d).carryOut w).2 := by
  have hfits : faults.verdict (w.stored.length + (line format locale d).length) =
      faults.verdict (lines format locale (emitted ++ [d])).length := by
    rw [h.stored, Faults.verdict_cut_length_add (line_ne_nil format locale d), lines_concat]
  have hlines : faults.cut (w.stored ++ line format locale d) =
      faults.cut (lines format locale (emitted ++ [d])) := by
    rw [h.stored, Faults.cut_cut_append, lines_concat]
  have hcomplete : lines format locale (emitted ++ [d]) <+: faults.cut (w.stored ++ line format locale d) ↔
      faults.verdict (lines format locale (emitted ++ [d])).length = .ok () := by
    rw [hlines]
    exact Faults.prefix_cut_iff List.prefix_rfl
  rw [carryOut_emit hchunk h.within, hfits]
  cases hverdict : faults.verdict (lines format locale (emitted ++ [d])).length with
  | ok =>
    have hwhole := hcomplete.2 hverdict
    have hafter : Balanced format locale faults (emitted ++ [d])
        { w.afterWrite faults (line format locale d) with flushes := w.flushes + 1 } := by
      refine h.afterLine d rfl ?_
      show w.flushes + 1 = w.flushes + if _ <+: faults.cut (w.stored ++ line format locale d) then 1 else 0
      rw [if_pos hwhole]
    exact hafter.accounted_of_flush hwhole
  | error error =>
    have hpart : ¬ lines format locale (emitted ++ [d]) <+:
        faults.cut (w.stored ++ line format locale d) := by
      rw [hcomplete, hverdict]
      intro h
      cases h
    have hafter : Balanced format locale faults (emitted ++ [d])
        (w.afterWrite faults (line format locale d)) := by
      refine h.afterLine d rfl ?_
      show w.flushes = w.flushes + if _ <+: faults.cut (w.stored ++ line format locale d) then 1 else 0
      rw [if_neg hpart, Nat.add_zero]
    obtain ⟨room, hroom, rfl⟩ := Faults.exists_room_of_verdict hverdict
    exact hafter.accounted_of_full hpart hroom

/-! ## Many emissions -/

/-- Whether the answer to the last of some emissions tells a failure of the flush. -/
def FlushFailed (format : CommandLine.Format) (locale : Locale) (emitted : List Diagnostic)
    (answer : Except Rejection Unit) (w : Writer) : Prop :=
  answer ≠ .ok () ∧ lines format locale emitted <+: w.stored

/-- If the last of some lines is complete, all of them are. -/
theorem Balanced.flushes_eq_length {emitted : List Diagnostic} {w : Writer}
    (h : Balanced format locale faults emitted w)
    (hwhole : lines format locale emitted <+: w.stored) : w.flushes = emitted.length := by
  rw [h.flushes]
  conv => rhs; rw [← List.length_range (n := emitted.length)]
  rw [List.countP_eq_length]
  intro i _
  rw [decide_eq_true_iff]
  exact (lines_take_begins emitted (i + 1)).trans hwhole

/-- A failed flush is the one that the writer was to fail in, and its number is that of the emission. -/
theorem Accounted.turn_of_flushFailed {emitted : List Diagnostic} {answer : Except Rejection Unit}
    {w : Writer} (h : Accounted format locale stream faults emitted answer w)
    (hfailed : FlushFailed format locale emitted answer w) :
    ∃ error, faults.flushFault = some ⟨emitted.length, error⟩ := by
  obtain ⟨hanswer, hwhole⟩ := hfailed
  cases answer with
  | ok => exact absurd rfl hanswer
  | error rejection =>
    obtain ⟨error, -, hcause⟩ := h.rejected rejection rfl
    rw [if_pos hwhole, h.flushes_eq_length hwhole] at hcause
    exact ⟨error, hcause⟩

/-- The sink of a session over a writer, and the session. -/
theorem step_emit (sink : Locale → Sink Writer) (chosen : Option Locale) (w : Writer)
    (d : Diagnostic) :
    (⟨chosen, w⟩ : Session Writer).step sink (.emit d) =
      (.emitted (((sink (chosen.getD .fallback)).emit d).carryOut w).1,
        ⟨chosen, (((sink (chosen.getD .fallback)).emit d).carryOut w).2⟩) := rfl

/-- What a session that only emits answers, and the writer after each emission. -/
theorem run_emits (stream : String) (hchunk : faults.chunk ≠ some 0) (chosen : Option Locale)
    (hlocale : chosen.getD .fallback = locale) {emitted : List Diagnostic} {w : Writer}
    (h : Balanced format locale faults emitted w) (ds : List Diagnostic) :
    ∃ emissions : List (Except Rejection Unit × Writer),
      Session.run (fun locale => ofFormat format locale stream faults) ⟨chosen, w⟩ (ds.map .emit) =
        emissions.map (fun (answer, w) => (.emitted answer, ⟨chosen, w⟩)) ∧
      emissions.length = ds.length ∧
      ∀ i answer w, emissions[i]? = some (answer, w) →
        Accounted format locale stream faults (emitted ++ ds.take (i + 1)) answer w := by
  induction ds generalizing emitted w with
  | nil => exact ⟨[], rfl, rfl, by simp⟩
  | cons d rest ih =>
    have hfirst : Accounted format locale stream faults (emitted ++ [d]) _ _ :=
      accounted_emit hchunk h d
    obtain ⟨emissions, hrun, hlength, heach⟩ := ih hfirst.toBalanced
    refine ⟨((ofFormat format locale stream faults).emit d).carryOut w :: emissions, ?_, ?_, ?_⟩
    · rw [List.map_cons, Session.run, step_emit, hlocale, List.map_cons, ← hrun]
    · rw [List.length_cons, List.length_cons, hlength]
    · intro i answer w' hi
      cases i with
      | zero =>
        rw [List.getElem?_cons_zero, Option.some.injEq] at hi
        rw [hi] at hfirst
        simpa using hfirst
      | succ i =>
        rw [List.getElem?_cons_succ] at hi
        have hnext := heach i answer w' hi
        rwa [List.append_assoc] at hnext

/-- For any diagnostics emitted one after the other over a fresh writer: after each emission the
writer holds as much as there is room for of the lines emitted so far, and it was flushed once for
each of these lines that it holds completely; the emission was accepted exactly if its line is
complete and its flush was not the one to fail; a rejection tells the error of the write or of the
flush, and at most one emission fails because of a flush. -/
theorem emissions_accounted (format : CommandLine.Format) (stream : String) (faults : Faults)
    (hchunk : faults.chunk ≠ some 0) (interruptNext : Bool) (chosen : Option Locale)
    (ds : List Diagnostic) :
    let locale := chosen.getD .fallback
    ∃ emissions : List (Except Rejection Unit × Writer),
      Session.run (fun locale => ofFormat format locale stream faults) ⟨chosen, { interruptNext }⟩
          (ds.map .emit) =
        emissions.map (fun (answer, w) => (.emitted answer, ⟨chosen, w⟩)) ∧
      emissions.length = ds.length ∧
      (∀ i answer w, emissions[i]? = some (answer, w) →
        Accounted format locale stream faults (ds.take (i + 1)) answer w) ∧
      ∀ i j answer answer' w w', emissions[i]? = some (answer, w) →
        emissions[j]? = some (answer', w') →
        FlushFailed format locale (ds.take (i + 1)) answer w →
        FlushFailed format locale (ds.take (j + 1)) answer' w' → i = j := by
  intro locale
  obtain ⟨emissions, hrun, hlength, heach⟩ := run_emits stream hchunk chosen rfl
    (Balanced.fresh format locale faults interruptNext) ds
  simp only [List.nil_append] at heach
  refine ⟨emissions, hrun, hlength, heach, ?_⟩
  intro i j answer answer' w w' hi hj hfailed hfailed'
  obtain ⟨error, hturn⟩ := (heach i answer w hi).turn_of_flushFailed hfailed
  obtain ⟨error', hturn'⟩ := (heach j answer' w' hj).turn_of_flushFailed hfailed'
  have hlt := (List.getElem?_eq_some_iff.1 hi).1
  have hlt' := (List.getElem?_eq_some_iff.1 hj).1
  rw [hturn] at hturn'
  simp only [Option.some.injEq, FlushFault.mk.injEq, List.length_take] at hturn'
  omega

/-- A writer with room for one line and two bytes more, of which the first flush fails: the first of
three lines is complete, and then nothing gets through. -/
theorem emissions_accounted_mid_line :
    let faults : Faults :=
      { room := some ⟨10, .refuse⟩, flushFault := some ⟨1, .system .inputOutput⟩ }
    let ds : List Diagnostic := [.status .success, .status .failure, .status .success]
    faults.chunk ≠ some 0 ∧
      ∃ emissions : List (Except Rejection Unit × Writer),
        Session.run (fun locale => ofFormat .text locale "stdout" faults) ⟨none, {}⟩
            (ds.map .emit) =
          emissions.map (fun (answer, w) => (.emitted answer, ⟨none, w⟩)) ∧
        emissions.length = 3 ∧
        ∀ answer w, emissions[2]? = some (answer, w) →
          w.stored = Text.Utf8.encode "SUCCESS\nFA".toList ∧ w.flushes = 1 ∧ answer ≠ .ok () := by
  intro faults ds
  have hchunk : faults.chunk ≠ some 0 := by decide
  obtain ⟨emissions, hrun, hlength, heach, -⟩ :=
    emissions_accounted .text "stdout" faults hchunk true none ds
  refine ⟨hchunk, emissions, hrun, hlength, ?_⟩
  intro answer w hlast
  have haccounted := heach 2 answer w hlast
  have hstored : faults.cut (lines .text .english ds) = Text.Utf8.encode "SUCCESS\nFA".toList := by
    decide +kernel
  have hcount : ((List.range 3).countP fun i => lines .text .english (ds.take (i + 1)) <+:
      faults.cut (lines .text .english ds)) = 1 := by
    decide +kernel
  have hpart : ¬ lines .text .english ds <+: faults.cut (lines .text .english ds) := by
    decide +kernel
  have hw : w.stored = faults.cut (lines .text .english ds) := haccounted.stored
  refine ⟨hw.trans hstored, ?_, ?_⟩
  · rw [haccounted.flushes, hw]
    exact hcount
  · rw [Ne, haccounted.accepted, hw]
    exact fun h => hpart h.1

end GreetingCheck.Lines
