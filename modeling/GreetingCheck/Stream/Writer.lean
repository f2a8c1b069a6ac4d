import GreetingCheck.IoError

/-!
# Writers

A writer stores the bytes that it is given, but it may take fewer of them in one call than it is
offered, it may interrupt a call, it may run out of room, and one of its flushes may fail.
`Faults` says which of these a writer does; the writer itself is what has become of it so far.

`writeAll` hides the first two: it goes on after a short write and repeats an interrupted one. It
ends, because a writer never interrupts twice in a row and a call that takes nothing is an error.
-/

namespace GreetingCheck

/-! ## Faults -/

/-- What a full writer answers to a further write. -/
inductive WhenFull
  /-- It takes nothing and gives no reason. -/
  | refuse
  /-- It fails. The error is no interruption, which would be tried again for ever. -/
  | fail (error : IoError) (isFinal : error.isInterruption = false)

/-- The room that a writer has. -/
structure Room where
  /-- How many bytes it stores altogether. -/
  bytes : Nat
  /-- What happens when they are used up. -/
  whenFull : WhenFull

/-- The one flush of a writer that fails. -/
structure FlushFault where
  /-- The number of the flush, counted from one. -/
  turn : Nat
  error : IoError

/-- What can go wrong with a writer. -/
structure Faults where
  /-- The room, unless it is unlimited. -/
  room : Option Room := none
  /-- The most bytes taken in one call, if there is such a limit. -/
  chunk : Option Nat := none
  /-- Whether every other call is interrupted. -/
  interrupts : Bool := false
  flushFault : Option FlushFault := none

namespace Faults

/-- A writer with which nothing goes wrong. -/
def none : Faults := {}

/-- A writer of which every write fails. -/
def failing (error : IoError) (isFinal : error.isInterruption = false) : Faults :=
  { room := some ⟨0, .fail error isFinal⟩ }

end Faults

/-- A writer as its calls have left it. -/
structure Writer where
  /-- The bytes stored so far. -/
  stored : List UInt8 := []
  /-- How often it has been flushed. -/
  flushes : Nat := 0
  /-- Whether the next call is the one to be interrupted, if calls are. -/
  interruptNext : Bool := true
  deriving DecidableEq

namespace Writer

/-! ## Single calls -/

/-- The answer to a call that offers bytes. -/
inductive Reply
  /-- So many of the bytes were taken. -/
  | accepted (count : Nat)
  /-- None were taken, and the call should be repeated. -/
  | interrupted
  /-- None were taken. -/
  | failed (error : IoError)

/-- How many of so many offered bytes a writer takes in one call. -/
def share (faults : Faults) (w : Writer) (offered : Nat) : Nat :=
  let offered := (faults.chunk.map (min offered)).getD offered
  (faults.room.map fun room => min offered (room.bytes - w.stored.length)).getD offered

/-- What a writer answers if it is full, nothing if it is not. -/
def full? (faults : Faults) (w : Writer) : Option Reply :=
  faults.room.bind fun room =>
    if room.bytes ≤ w.stored.length then
      some (match room.whenFull with
        | .refuse => .accepted 0
        | .fail error _ => .failed error)
    else none

/-- Offers bytes to a writer once. -/
def write (faults : Faults) (bytes : List UInt8) (w : Writer) : Reply × Writer :=
  if faults.interrupts ∧ w.interruptNext then (.interrupted, { w with interruptNext := false })
  else
    let count := w.share faults bytes.length
    ((w.full? faults).getD (.accepted count),
      { w with stored := w.stored ++ bytes.take count, interruptNext := true })

/-- A call is interrupted only where an interruption is due, and then none is due for the next
call. -/
theorem interruptNext_of_interrupted {faults : Faults} {bytes : List UInt8} {w w' : Writer}
    (h : w.write faults bytes = (.interrupted, w')) :
    w.interruptNext = true ∧ w'.interruptNext = false := by
  unfold write at h
  split at h
  · next hdue =>
    simp only [Prod.mk.injEq, true_and] at h
    exact ⟨hdue.2, h ▸ rfl⟩
  · exfalso
    have hreply := congrArg Prod.fst h
    unfold full? at hreply
    cases hroom : faults.room with
    | none => simp [hroom] at hreply
    | some room =>
      by_cases hfull : room.bytes ≤ w.stored.length
      · cases hwhen : room.whenFull <;> simp [hroom, hfull, hwhen] at hreply
      · simp [hroom, hfull] at hreply

/-! ## Whole writes -/

/-- Writes all of the bytes, one call after the other. -/
def writeAll (faults : Faults) (bytes : List UInt8) (w : Writer) : Except IoError Unit × Writer :=
  match bytes with
  | [] => (.ok (), w)
  | b :: rest =>
    match _h : w.write faults (b :: rest) with
    | (.interrupted, w') => writeAll faults (b :: rest) w'
    | (.failed error, w') => (.error error, w')
    | (.accepted 0, w') => (.error .wholeBuffer, w')
    | (.accepted (count + 1), w') => writeAll faults (rest.drop count) w'
termination_by 2 * bytes.length + w.interruptNext.toNat
decreasing_by
  · simp [interruptNext_of_interrupted _h]
  · have := Bool.toNat_le w'.interruptNext
    simp only [List.length_drop, List.length_cons]
    omega

/-- Flushes a writer. Whatever comes of it, the bytes stay stored. -/
def flush (faults : Faults) (w : Writer) : Except IoError Unit × Writer :=
  let w := { w with flushes := w.flushes + 1 }
  match faults.flushFault with
  | some fault => if w.flushes = fault.turn then (.error fault.error, w) else (.ok (), w)
  | none => (.ok (), w)

end Writer

/-! ## Sequences of writes -/

/-- An action on a writer that an error may cut short. -/
abbrev Output (α : Type) := ExceptT IoError (StateM Writer) α

namespace Output

/-- Carries an action out on a writer: its result, and what has become of the writer. -/
def carryOut {α : Type} (action : Output α) (w : Writer) : Except IoError α × Writer :=
  (StateT.run (ExceptT.run action) w).run

/-- Writes all of the bytes. -/
def put (faults : Faults) (bytes : List UInt8) : Output Unit :=
  ExceptT.mk fun w => pure (w.writeAll faults bytes)

theorem put_nil (faults : Faults) : put faults [] = pure () := by
  unfold put
  simp only [Writer.writeAll]
  rfl

/-- Flushes the writer. -/
def flush (faults : Faults) : Output Unit :=
  ExceptT.mk fun w => pure (w.flush faults)

end Output

end GreetingCheck
