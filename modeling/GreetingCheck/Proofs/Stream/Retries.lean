import GreetingCheck.Proofs.Session
import GreetingCheck.Proofs.Stream.Lines

/-!
# Short and interrupted writes

A writer may take fewer bytes in a call than it is offered, or interrupt the call. To a sink over it
neither shows: a session answers step by step what it would answer over a writer that does not
(`run_undisturbed`). Nor does it keep an emission from ending, for no more calls are made than two
for each byte of a line (`exists_calls`).
-/

namespace GreetingCheck

open CommandLine

/-! ## The calls of a write -/

namespace Writer

/-- The calls of a writer that is given several pieces of bytes one after the other, up to the end
of the last or to the first error: their number, what comes of them and what becomes of the
writer. -/
inductive Calls (faults : Faults) :
    List (List UInt8) → Writer → Nat → Except IoError Unit → Writer → Prop
  | done {w : Writer} : Calls faults [] w 0 (.ok ()) w
  /-- A piece is complete. -/
  | next {pieces : List (List UInt8)} {w w' : Writer} {n : Nat} {result : Except IoError Unit}
      (h : Calls faults pieces w n result w') : Calls faults ([] :: pieces) w n result w'
  /-- An interrupted call is made again. -/
  | again {bytes : List UInt8} {pieces : List (List UInt8)} {w w₁ w' : Writer} {n : Nat}
      {result : Except IoError Unit} (hbytes : bytes ≠ [])
      (hcall : w.write faults bytes = (.interrupted, w₁))
      (h : Calls faults (bytes :: pieces) w₁ n result w') :
      Calls faults (bytes :: pieces) w (n + 1) result w'
  /-- A call that took some bytes is followed by one that offers the others. -/
  | onward {bytes : List UInt8} {pieces : List (List UInt8)} {w w₁ w' : Writer} {n count : Nat}
      {result : Except IoError Unit} (hbytes : bytes ≠ [])
      (hcall : w.write faults bytes = (.accepted (count + 1), w₁))
      (h : Calls faults (bytes.drop (count + 1) :: pieces) w₁ n result w') :
      Calls faults (bytes :: pieces) w (n + 1) result w'
  | refused {bytes : List UInt8} {pieces : List (List UInt8)} {w w' : Writer} (hbytes : bytes ≠ [])
      (hcall : w.write faults bytes = (.accepted 0, w')) :
      Calls faults (bytes :: pieces) w 1 (.error .wholeBuffer) w'
  | failed {bytes : List UInt8} {pieces : List (List UInt8)} {w w' : Writer} {error : IoError}
      (hbytes : bytes ≠ []) (hcall : w.write faults bytes = (.failed error, w')) :
      Calls faults (bytes :: pieces) w 1 (.error error) w'

variable {faults : Faults}

/-- Writes several pieces of bytes one after the other, until one fails. -/
def writeEach (faults : Faults) : List (List UInt8) → Writer → Except IoError Unit × Writer
  | [], w => (.ok (), w)
  | bytes :: pieces, w =>
    match w.writeAll faults bytes with
    | (.ok (), w') => writeEach faults pieces w'
    | (.error error, w') => (.error error, w')

/-- The calls of a write and those behind it. An interrupted call leaves the next one undisturbed,
which then takes a byte or is the last. -/
theorem calls_cons (pieces : List (List UInt8)) {m : Nat} {result : Except IoError Unit}
    {w' : Writer} (bytes : List UInt8) (w : Writer)
    (h : match w.writeAll faults bytes with
      | (.ok (), w₁) => Calls faults pieces w₁ m result w'
      | (.error error, w₁) => m = 0 ∧ result = .error error ∧ w' = w₁) :
    ∃ n, Calls faults (bytes :: pieces) w (n + m) result w' ∧ n ≤ 2 * bytes.length ∧
      (bytes ≠ [] → w.interruptNext = false → n + 1 ≤ 2 * bytes.length) := by
  induction bytes, w using writeAll.induct faults with
  | case1 w =>
    rw [writeAll] at h
    exact ⟨0, by simpa using h.next, Nat.le_refl _, fun hne => absurd rfl hne⟩
  | case2 w b rest w₁ hcall ih =>
    rw [writeAll_cons, hcall] at h
    obtain ⟨hdue, hnone⟩ := interruptNext_of_interrupted hcall
    obtain ⟨n, hcalls, -, hbound⟩ := ih h
    refine ⟨n + 1, ?_, hbound (List.cons_ne_nil b rest) hnone, ?_⟩
    · rw [Nat.add_right_comm]
      exact .again (List.cons_ne_nil b rest) hcall hcalls
    · intro _ hfalse
      rw [hdue] at hfalse
      cases hfalse
  | case3 w b rest error w₁ hcall =>
    rw [writeAll_cons, hcall] at h
    obtain ⟨rfl, rfl, rfl⟩ := h
    refine ⟨1, .failed (List.cons_ne_nil b rest) hcall, ?_, fun _ _ => ?_⟩ <;>
      rw [List.length_cons] <;> omega
  | case4 w b rest w₁ hcall =>
    rw [writeAll_cons, hcall] at h
    obtain ⟨rfl, rfl, rfl⟩ := h
    refine ⟨1, .refused (List.cons_ne_nil b rest) hcall, ?_, fun _ _ => ?_⟩ <;>
      rw [List.length_cons] <;> omega
  | case5 w b rest count w₁ hcall ih =>
    rw [writeAll_cons, hcall] at h
    obtain ⟨n, hcalls, hbound, -⟩ := ih h
    rw [List.length_drop] at hbound
    refine ⟨n + 1, ?_, ?_, fun _ _ => ?_⟩
    · rw [Nat.add_right_comm]
      exact .onward (List.cons_ne_nil b rest) hcall hcalls
    · rw [List.length_cons]
      omega
    · rw [List.length_cons]
      omega

theorem calls_writeEach (faults : Faults) (pieces : List (List UInt8)) (w : Writer) :
    ∃ n ≤ 2 * pieces.flatten.length,
      Calls faults pieces w n (writeEach faults pieces w).1 (writeEach faults pieces w).2 := by
  induction pieces generalizing w with
  | nil => exact ⟨0, Nat.le_refl _, .done⟩
  | cons bytes pieces ih =>
    rw [List.flatten_cons, List.length_append, writeEach]
    rcases hwrite : w.writeAll faults bytes with ⟨error | _, w₁⟩
    · obtain ⟨n, hcalls, hbound, -⟩ := calls_cons pieces bytes w
        (by rw [hwrite]; exact ⟨rfl, rfl, rfl⟩)
      exact ⟨n, by omega, hcalls⟩
    · obtain ⟨m, hm, hrest⟩ := ih w₁
      obtain ⟨n, hcalls, hbound, -⟩ := calls_cons pieces bytes w (by rw [hwrite]; exact hrest)
      exact ⟨n + m, by omega, hcalls⟩

end Writer

/-! ## The calls of an emission -/

namespace Lines

variable {format : Format} {locale : Locale} {stream : String} {faults : Faults}

/-- The pieces in which a line is given to the writer. -/
def pieces (format : Format) (locale : Locale) (d : Diagnostic) : List (List UInt8) :=
  match format with
  | .text => [Text.Utf8.encode (Message.ofDiagnostic locale d).toList, [newline]]
  | .json => [Text.Utf8.encode d.encode.toList ++ [newline]]

@[simp] theorem flatten_pieces (format : Format) (locale : Locale) (d : Diagnostic) :
    (pieces format locale d).flatten = line format locale d := by
  cases format <;> simp [pieces, line, words, ended]

/-- What comes of a line decides whether the writer is flushed behind it. -/
theorem carryOut_emit_pieces (d : Diagnostic) (w : Writer) :
    ((ofFormat format locale stream faults).emit d).carryOut w =
      match Writer.writeEach faults (pieces format locale d) w with
      | (.ok (), w') => ((w'.flush faults).1.mapError (failure locale stream), (w'.flush faults).2)
      | (.error error, w') => (.error (failure locale stream error), w') := by
  cases format with
  | text =>
    show (reported locale stream do
      putLine (.plain faults) (Message.ofDiagnostic locale d)
      Output.flush faults).carryOut w = _
    simp only [carryOut_reported, putLine, Output.carryOut_bind, Outlet.carryOut_put_plain, pieces,
      Writer.writeEach]
    rcases w.writeAll faults _ with ⟨_ | _, w₁⟩
    · rfl
    · dsimp only
      rcases w₁.writeAll faults [newline] with ⟨_ | _, w₂⟩ <;> rfl
  | json =>
    show (reported locale stream do
      Output.put faults (Text.Utf8.encode d.encode.toList ++ [newline])
      Output.flush faults).carryOut w = _
    simp only [carryOut_reported, Output.carryOut_bind, Output.carryOut_put, pieces,
      Writer.writeEach]
    rcases w.writeAll faults _ with ⟨_ | _, w₁⟩ <;> rfl

/-- An emission makes at most two calls for each byte of its line, and then it has its answer. -/
theorem exists_calls (d : Diagnostic) (w : Writer) :
    ∃ n result w', n ≤ 2 * (line format locale d).length ∧
      Writer.Calls faults (pieces format locale d) w n result w' ∧
      ((ofFormat format locale stream faults).emit d).carryOut w =
        match result with
        | .ok () => ((w'.flush faults).1.mapError (failure locale stream), (w'.flush faults).2)
        | .error error => (.error (failure locale stream error), w') := by
  obtain ⟨n, hn, hcalls⟩ := Writer.calls_writeEach faults (pieces format locale d) w
  rw [flatten_pieces] at hn
  refine ⟨n, _, _, hn, hcalls, ?_⟩
  rw [carryOut_emit_pieces]
  rcases Writer.writeEach faults (pieces format locale d) w with ⟨_ | _, _⟩ <;> rfl

end Lines

/-! ## Sessions over an undisturbed writer -/

/-- The same writer, but every call of it takes all that there is room for. -/
def Faults.undisturbed (faults : Faults) : Faults :=
  { faults with chunk := Option.none, interrupts := false }

namespace Lines

variable {format : Format} {locale : Locale} {stream : String} {faults : Faults}

/-- Two writers that hold the same bytes, no more than there is room for, and were flushed equally
often. -/
structure Alike (faults : Faults) (w w' : Writer) : Prop where
  stored : w.stored = w'.stored
  flushes : w.flushes = w'.flushes
  within : w.Within faults

theorem mimics_undisturbed (hchunk : faults.chunk ≠ some 0) :
    (ofFormat format locale stream faults).Mimics (Alike faults)
      (ofFormat format locale stream faults.undisturbed) := by
  intro d w w' halike
  have hwithin' : w'.Within faults.undisturbed := by
    have hwithin := halike.within
    rw [Writer.Within, halike.stored] at hwithin
    exact hwithin
  have hchunk' : faults.undisturbed.chunk ≠ some 0 := by simp [Faults.undisturbed]
  have hverdict : faults.undisturbed.verdict = faults.verdict := rfl
  have hflush : faults.undisturbed.flushVerdict = faults.flushVerdict := rfl
  have hafter (bytes : List UInt8) :
      Alike faults (w.afterWrite faults bytes) (w'.afterWrite faults.undisturbed bytes) := by
    refine ⟨?_, halike.flushes, Writer.within_afterWrite faults bytes w⟩
    rw [Writer.afterWrite, halike.stored]
    rfl
  rw [carryOut_emit hchunk halike.within, carryOut_emit hchunk' hwithin', hverdict, hflush,
    ← halike.stored, ← halike.flushes]
  cases faults.verdict (w.stored.length + (line format locale d).length) with
  | error error => exact ⟨rfl, hafter _⟩
  | ok =>
    obtain ⟨hstored, -, hwithin⟩ := hafter (line format locale d)
    exact ⟨rfl, hstored, rfl, hwithin⟩

end Lines

namespace Session

/-- What a step of a session over a writer comes to, as far as it can be told from outside: the
answer, the locale, and the bytes and the number of flushes of the writer behind it. -/
def observed (r : Answer × Session Writer) : Answer × Option Locale × List UInt8 × Nat :=
  (r.1, r.2.chosen, r.2.sink.stored, r.2.sink.flushes)

/-- That a writer takes only some bytes in a call and interrupts every other call does not show:
step by step a session over it comes to the same as over a writer that does neither. Every emission
ends, after at most two calls for each byte of its line. -/
theorem run_undisturbed (format : Format) (stream : String) {faults : Faults}
    (hchunk : faults.chunk ≠ some 0) (interruptNext interruptNext' : Bool)
    (chosen : Option Locale) (steps : List Step) :
    (run (fun locale => Lines.ofFormat format locale stream faults) ⟨chosen, { interruptNext }⟩
        steps).map observed =
      (run (fun locale => Lines.ofFormat format locale stream faults.undisturbed)
        ⟨chosen, { interruptNext := interruptNext' }⟩ steps).map observed ∧
    ∀ locale d w, ∃ n result w', n ≤ 2 * (Lines.line format locale d).length ∧
      Writer.Calls faults (Lines.pieces format locale d) w n result w' ∧
      ((Lines.ofFormat format locale stream faults).emit d).carryOut w =
        match result with
        | .ok () =>
          ((w'.flush faults).1.mapError (Lines.failure locale stream), (w'.flush faults).2)
        | .error error => (.error (Lines.failure locale stream error), w') := by
  refine ⟨?_, fun locale d w => Lines.exists_calls d w⟩
  have hfresh : Lines.Alike faults { interruptNext } { interruptNext := interruptNext' } :=
    ⟨rfl, rfl, Writer.within_fresh faults interruptNext⟩
  have hruns := run_of_mimics (s := ⟨chosen, { interruptNext }⟩)
    (t := ⟨chosen, { interruptNext := interruptNext' }⟩)
    (fun locale => @Lines.mimics_undisturbed format locale stream faults hchunk) rfl hfresh steps
  rw [← List.forall₂_eq_eq_eq, List.forall₂_map_left_iff, List.forall₂_map_right_iff]
  refine hruns.imp ?_
  intro x y hsame
  obtain ⟨hanswer, hchosen, halike⟩ := hsame
  rw [observed, observed, hanswer, hchosen, halike.stored, halike.flushes]

/-- Three bytes a call, every other call interrupted, a flush that fails, and room that ends in the
middle of a line and of a call. -/
theorem run_undisturbed_mid_call :
    let faults : Faults :=
      { room := some ⟨20, .refuse⟩, chunk := some 3, interrupts := true,
        flushFault := some ⟨1, .plain .interrupted⟩ }
    let steps : List Step :=
      [.emit (.status .success), .setLocale .catalan, .emit (.status .success),
        .checkWithReport ⟨["hello"]⟩]
    (run (fun locale => Lines.ofFormat .text locale "stdout" faults) ⟨none, {}⟩
        steps).map observed =
      (run (fun locale => Lines.ofFormat .text locale "stdout" faults.undisturbed) ⟨none, {}⟩
        steps).map observed ∧
    ∃ n result w', n ≤ 2 * (Lines.line .text .catalan (.status .success)).length ∧
      Writer.Calls faults (Lines.pieces .text .catalan (.status .success)) {} n result w' := by
  intro faults steps
  obtain ⟨hruns, hends⟩ := run_undisturbed .text "stdout" (by decide : faults.chunk ≠ some 0) true
    true none steps
  obtain ⟨n, result, w', hn, hcalls, -⟩ := hends .catalan (.status .success) {}
  exact ⟨hruns, n, result, w', hn, hcalls⟩

end Session

end GreetingCheck
