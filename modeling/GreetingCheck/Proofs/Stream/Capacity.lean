import Mathlib.Data.List.TakeDrop
import GreetingCheck.Proofs.Stream.Writer

/-!
# Writes in closed form

`wrote_writeAll` tells what may become of a write. For a writer that takes something in every call
for as long as it has room, it can be said exactly (`writeAll_eq`): the bytes stored are a
beginning of all the bytes offered so far, cut where the room ends (`Faults.cut`), and whether the
write succeeds depends on their number alone (`Faults.verdict`). How the bytes are divided into
calls, and which of these are interrupted, decides nothing.
-/

namespace GreetingCheck

/-- The error of a write that has come to the end of the room. -/
def WhenFull.error : WhenFull → IoError
  | .refuse => .wholeBuffer
  | .fail error _ => error

namespace Faults

/-- The beginning of some bytes that there is room for. -/
def cut (faults : Faults) (bytes : List UInt8) : List UInt8 :=
  match faults.room with
  | some room => bytes.take room.bytes
  | .none => bytes

/-- What comes of a write after which a writer would hold so many bytes. -/
def verdict (faults : Faults) (total : Nat) : Except IoError Unit :=
  match faults.room with
  | some room => if total ≤ room.bytes then .ok () else .error room.whenFull.error
  | .none => .ok ()

/-- What comes of a flush, by its number. -/
def flushVerdict (faults : Faults) (turn : Nat) : Except IoError Unit :=
  match faults.flushFault with
  | some fault => if turn = fault.turn then .error fault.error else .ok ()
  | .none => .ok ()

variable {faults : Faults}

@[simp] theorem cut_nil (faults : Faults) : faults.cut [] = [] := by
  unfold cut
  cases faults.room <;> simp

/-- Bytes that were cut before are cut again where more of them are added. -/
@[simp] theorem cut_cut_append (faults : Faults) (front bytes : List UInt8) :
    faults.cut (faults.cut front ++ bytes) = faults.cut (front ++ bytes) := by
  unfold cut
  cases faults.room with
  | none => rfl
  | some room =>
    show (front.take room.bytes ++ bytes).take room.bytes = (front ++ bytes).take room.bytes
    rw [List.take_append, List.take_append, List.take_take, Nat.min_self, List.length_take]
    congr 2
    omega

@[simp] theorem cut_cut (faults : Faults) (bytes : List UInt8) :
    faults.cut (faults.cut bytes) = faults.cut bytes := by
  simpa using faults.cut_cut_append bytes []

theorem verdict_eq_ok_iff {total : Nat} :
    faults.verdict total = .ok () ↔ ∀ room, faults.room = some room → total ≤ room.bytes := by
  unfold verdict
  cases faults.room with
  | none => simp
  | some room =>
    by_cases h : total ≤ room.bytes <;> simp [h]

/-- A write fails only where the room ends, and with the error of a full writer. -/
theorem exists_room_of_verdict {total : Nat} {error : IoError}
    (h : faults.verdict total = .error error) :
    ∃ room, faults.room = some room ∧ error = room.whenFull.error := by
  unfold verdict at h
  cases hroom : faults.room with
  | none => simp [hroom] at h
  | some room =>
    rw [hroom] at h
    by_cases hfits : total ≤ room.bytes
    · simp [hfits] at h
    · simp only [hfits, if_false, Except.error.injEq] at h
      exact ⟨room, rfl, h.symm⟩

/-- A write that fails where some bytes do not fit fails in the same way where more of them do not. -/
theorem verdict_of_error {m n : Nat} (hle : m ≤ n) {error : IoError}
    (h : faults.verdict m = .error error) : faults.verdict n = .error error := by
  unfold verdict at h ⊢
  cases hroom : faults.room with
  | none => simp [hroom] at h
  | some room =>
    rw [hroom] at h
    by_cases hfits : m ≤ room.bytes
    · simp [hfits] at h
    · have hmore : ¬ n ≤ room.bytes := by omega
      simpa [hfits, hmore] using h

/-- Where bytes do not fit, nothing of what comes behind them is stored. -/
theorem cut_append_of_error {front : List UInt8} {error : IoError}
    (h : faults.verdict front.length = .error error) (back : List UInt8) :
    faults.cut (front ++ back) = faults.cut front := by
  unfold verdict at h
  unfold cut
  cases hroom : faults.room with
  | none => simp [hroom] at h
  | some room =>
    rw [hroom] at h
    by_cases hfits : front.length ≤ room.bytes
    · simp [hfits] at h
    · exact List.take_append_of_le_length (by omega)

/-- There is room for some bytes exactly if nothing of them is cut. -/
theorem verdict_length_eq_ok_iff {bytes : List UInt8} :
    faults.verdict bytes.length = .ok () ↔ faults.cut bytes = bytes := by
  rw [verdict_eq_ok_iff, cut]
  cases faults.room with
  | none => simp
  | some room => simp

/-- Behind bytes that were cut there is no room for more. -/
theorem verdict_cut_length_add {front bytes : List UInt8} (hbytes : bytes ≠ []) :
    faults.verdict ((faults.cut front).length + bytes.length) =
      faults.verdict (front ++ bytes).length := by
  have hpos := List.length_pos_iff.2 hbytes
  unfold verdict cut
  cases faults.room with
  | none => simp
  | some room =>
    simp only [List.length_take, List.length_append]
    have hsame : min room.bytes front.length + bytes.length ≤ room.bytes ↔
        front.length + bytes.length ≤ room.bytes := by omega
    simp only [hsame]

/-- A beginning of some bytes is stored with them exactly if there is room for it. -/
theorem prefix_cut_iff {front bytes : List UInt8} (h : front <+: bytes) :
    front <+: faults.cut bytes ↔ faults.verdict front.length = .ok () := by
  rw [verdict_eq_ok_iff, cut]
  cases faults.room with
  | none => simp [h]
  | some room =>
    rw [List.prefix_take_iff]
    simp [h]

theorem flushVerdict_eq_ok_iff {turn : Nat} :
    faults.flushVerdict turn = .ok () ↔
      ∀ fault, faults.flushFault = some fault → turn ≠ fault.turn := by
  unfold flushVerdict
  cases faults.flushFault with
  | none => simp
  | some fault =>
    by_cases h : turn = fault.turn <;> simp [h]

/-- Only the one flush that is to fail fails. -/
theorem flushFault_of_flushVerdict {turn : Nat} {error : IoError}
    (h : faults.flushVerdict turn = .error error) : faults.flushFault = some ⟨turn, error⟩ := by
  unfold flushVerdict at h
  cases hfault : faults.flushFault with
  | none => simp [hfault] at h
  | some fault =>
    rw [hfault] at h
    by_cases hturn : turn = fault.turn
    · simp only [hturn, if_true, Except.error.injEq] at h
      rw [hturn, ← h]
    · simp [hturn] at h

end Faults

namespace Writer

variable {faults : Faults} {w : Writer}

/-- A writer that has not been given more than it has room for. -/
def Within (faults : Faults) (w : Writer) : Prop := faults.cut w.stored = w.stored

theorem within_fresh (faults : Faults) (interruptNext : Bool) :
    ({ interruptNext } : Writer).Within faults := faults.cut_nil

theorem Within.length_le (h : w.Within faults) {room : Room} (hroom : faults.room = some room) :
    w.stored.length ≤ room.bytes := by
  rw [Within, Faults.cut, hroom] at h
  exact (List.take_eq_self_iff _).1 h

/-- The state in which a write of some bytes leaves a writer. -/
def afterWrite (faults : Faults) (bytes : List UInt8) (w : Writer) : Writer :=
  { w with
    stored := faults.cut (w.stored ++ bytes)
    interruptNext := w.interruptNext || !bytes.isEmpty }

theorem within_afterWrite (faults : Faults) (bytes : List UInt8) (w : Writer) :
    (w.afterWrite faults bytes).Within faults := faults.cut_cut _

/-- An interrupted call changes nothing but that the next one is not interrupted. -/
theorem eq_of_interrupted {bytes : List UInt8} {w' : Writer}
    (h : w.write faults bytes = (.interrupted, w')) : w' = { w with interruptNext := false } := by
  have hreply := interruptNext_of_interrupted h
  unfold write at h
  split at h
  · exact (Prod.mk.inj h).2.symm
  · have hnext := congrArg (fun result => result.2.interruptNext) h
    simp [hreply.2] at hnext

/-- The state behind a call that was not interrupted. -/
theorem eq_of_not_interrupted {bytes : List UInt8} {reply : Reply} {w' : Writer}
    (h : w.write faults bytes = (reply, w')) (hreply : reply ≠ .interrupted) :
    reply = (w.full? faults).getD (.accepted (w.share faults bytes.length)) ∧
      w' = { w with
        stored := w.stored ++ bytes.take (w.share faults bytes.length), interruptNext := true } := by
  unfold write at h
  split at h
  · exact absurd (Prod.mk.inj h).1.symm hreply
  · exact ⟨(Prod.mk.inj h).1.symm, (Prod.mk.inj h).2.symm⟩

/-- The error with which a reply ends a whole write, if it does. -/
private def endingError? : Reply → Option IoError
  | .failed error => some error
  | .accepted 0 => some .wholeBuffer
  | _ => none

/-- Only a full writer ends a whole write. -/
private theorem full_of_ending (hchunk : faults.chunk ≠ some 0) {b : UInt8} {rest : List UInt8}
    {reply : Reply} {error : IoError}
    (hreply : reply = (w.full? faults).getD (.accepted (w.share faults (b :: rest).length)))
    (herror : endingError? reply = some error) :
    ∃ room, faults.room = some room ∧ room.bytes ≤ w.stored.length ∧
      error = room.whenFull.error := by
  cases hfull : w.full? faults with
  | none =>
    -- a writer that is not full takes something
    have hpos : 0 < w.share faults (b :: rest).length :=
      share_pos (full?_eq_none_iff.1 hfull) hchunk (by simp)
    obtain ⟨count, hcount⟩ := Nat.exists_eq_succ_of_ne_zero (Nat.ne_of_gt hpos)
    rw [hfull, Option.getD_none, hcount] at hreply
    subst hreply
    cases herror
  | some answer =>
    rw [hfull, Option.getD_some] at hreply
    subst hreply
    rw [full?, Option.bind_eq_some_iff] at hfull
    obtain ⟨room, hroom, hfull⟩ := hfull
    split at hfull
    next hle =>
      refine ⟨room, hroom, hle, ?_⟩
      rw [← Option.some.inj hfull] at herror
      cases hwhen : room.whenFull with
      | refuse =>
        rw [hwhen] at herror
        exact (Option.some.inj herror).symm
      | fail e hfinal =>
        rw [hwhen] at herror
        exact (Option.some.inj herror).symm
    next => cases hfull

/-- A write that a call has ended is the one in closed form. -/
private theorem ended_eq (hchunk : faults.chunk ≠ some 0) (hw : w.Within faults) {b : UInt8}
    {rest : List UInt8} {reply : Reply} {w' : Writer} {error : IoError}
    (hcall : w.write faults (b :: rest) = (reply, w')) (herror : endingError? reply = some error) :
    (.error error, w') =
      (faults.verdict (w.stored.length + (b :: rest).length), w.afterWrite faults (b :: rest)) := by
  have hnot : reply ≠ .interrupted := by
    rintro rfl
    cases herror
  obtain ⟨hreply, hafter⟩ := eq_of_not_interrupted hcall hnot
  obtain ⟨room, hroom, hfull, rfl⟩ := full_of_ending hchunk hreply herror
  have hspent : w.Spent faults := ⟨room, hroom, hfull⟩
  have hlength : w.stored.length = room.bytes := Nat.le_antisymm (hw.length_le hroom) hfull
  have hverdict : faults.verdict (w.stored.length + (b :: rest).length) =
      .error room.whenFull.error := by
    rw [Faults.verdict, hroom]
    exact if_neg (by simp only [List.length_cons]; omega)
  have hstored : faults.cut (w.stored ++ b :: rest) = w.stored := by
    rw [Faults.cut, hroom]
    exact List.take_left' hlength
  rw [share_of_spent hspent, List.take_zero, List.append_nil] at hafter
  rw [hverdict, hafter, afterWrite, hstored]
  simp

/-- An accepted call stores bytes that there is room for. -/
private theorem within_of_accepted (hw : w.Within faults) {bytes : List UInt8} :
    faults.cut (w.stored ++ bytes.take (w.share faults bytes.length)) =
      w.stored ++ bytes.take (w.share faults bytes.length) := by
  unfold Faults.cut
  cases hroom : faults.room with
  | none => rfl
  | some room =>
    apply List.take_of_length_le
    have hle : w.share faults bytes.length ≤ room.bytes - w.stored.length := by
      simp only [share, hroom, Option.map_some, Option.getD_some]
      exact Nat.min_le_right _ _
    have hroomy := hw.length_le hroom
    simp only [List.length_append, List.length_take]
    omega

theorem writeAll_eq (hchunk : faults.chunk ≠ some 0) (hw : w.Within faults) (bytes : List UInt8) :
    w.writeAll faults bytes =
      (faults.verdict (w.stored.length + bytes.length), w.afterWrite faults bytes) := by
  -- along the calls, as for `wrote_writeAll`
  induction bytes, w using writeAll.induct faults with
  | case1 w =>
    have hverdict : faults.verdict w.stored.length = .ok () := Faults.verdict_length_eq_ok_iff.2 hw
    have hafter : w.afterWrite faults [] = w := by
      rw [afterWrite, List.append_nil, show faults.cut w.stored = w.stored from hw]
      simp
    rw [hafter, List.length_nil, Nat.add_zero, hverdict, writeAll]
  | case2 w b rest w' hcall ih =>
    have hafter := eq_of_interrupted hcall
    subst hafter
    rw [writeAll_cons, hcall]
    refine (ih hw).trans ?_
    simp [afterWrite]
  | case3 w b rest error w' hcall =>
    rw [writeAll_cons, hcall]
    exact ended_eq hchunk hw hcall rfl
  | case4 w b rest w' hcall =>
    rw [writeAll_cons, hcall]
    exact ended_eq hchunk hw hcall rfl
  | case5 w b rest count w' hcall ih =>
    have hcalled : Called faults (b :: rest) w _ _ := called_write (List.cons_ne_nil b rest) w
    rw [hcall] at hcalled
    obtain ⟨-, hafter⟩ := eq_of_not_interrupted hcall (by simp)
    have hwithin : w'.Within faults := by
      rw [hafter]
      exact within_of_accepted hw
    rw [writeAll_cons, hcall]
    refine (ih hwithin).trans ?_
    cases hcalled with
    | accepted hroom _ hcount hstored hflushes =>
      -- what was taken and what is left make up what was offered
      have htotal : w'.stored.length + (rest.drop count).length =
          w.stored.length + (b :: rest).length := by
        rw [hstored]
        simp only [List.length_append, List.length_take, List.length_drop, List.length_cons] at hcount ⊢
        omega
      have hbytes : w'.stored ++ rest.drop count = w.stored ++ b :: rest := by
        rw [hstored, List.append_assoc, List.take_succ_cons, List.cons_append,
          List.take_append_drop]
      have hnext : w'.interruptNext = true := by rw [hafter]
      rw [htotal, afterWrite, afterWrite, hbytes, hnext, hflushes]
      simp
    | refused hreply => simp at hreply

/-- Two writes, the second after the first has succeeded, are one write of both. -/
theorem writeAll_append (hchunk : faults.chunk ≠ some 0) (hw : w.Within faults)
    (front back : List UInt8) :
    (match w.writeAll faults front with
      | (.ok (), w') => w'.writeAll faults back
      | (.error error, w') => (.error error, w')) = w.writeAll faults (front ++ back) := by
  have hafter := within_afterWrite faults front w
  have hlength : w.stored.length + (front ++ back).length = w.stored.length + front.length + back.length := by
    rw [List.length_append, Nat.add_assoc]
  rw [writeAll_eq hchunk hw, writeAll_eq hchunk hw, hlength]
  cases hverdict : faults.verdict (w.stored.length + front.length) with
  | ok =>
    have hstored : faults.cut (w.stored ++ front) = w.stored ++ front := by
      rw [← Faults.verdict_length_eq_ok_iff, List.length_append]
      exact hverdict
    show (w.afterWrite faults front).writeAll faults back = _
    rw [writeAll_eq hchunk hafter, afterWrite, afterWrite, afterWrite, hstored, List.length_append,
      List.append_assoc]
    cases front <;> simp
  | error error =>
    have hmore := Faults.verdict_of_error (Nat.le_add_right _ back.length) hverdict
    rw [← List.length_append] at hverdict
    have hstored := Faults.cut_append_of_error hverdict back
    have hfront : front ≠ [] := by
      rintro rfl
      rw [List.append_nil, Faults.verdict_length_eq_ok_iff.2 hw] at hverdict
      cases hverdict
    obtain ⟨b, rest, rfl⟩ := List.exists_cons_of_ne_nil hfront
    rw [hmore, afterWrite, afterWrite, ← List.append_assoc, hstored]
    rfl

/-! ## Flushes -/

theorem flush_eq (faults : Faults) (w : Writer) :
    w.flush faults = (faults.flushVerdict (w.flushes + 1), { w with flushes := w.flushes + 1 }) := by
  unfold flush Faults.flushVerdict
  cases faults.flushFault with
  | none => rfl
  | some fault =>
    by_cases h : w.flushes + 1 = fault.turn <;> simp [h]

end Writer

end GreetingCheck
