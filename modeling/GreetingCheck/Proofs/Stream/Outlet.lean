import GreetingCheck.Proofs.Stream.Capacity
import GreetingCheck.Stream.Outlet

/-!
# What passes an outlet

An outlet can be told by its answers alone: it may accept every call (`Outlet.Accepts`) or fail
every write (`Outlet.Fails`), and what it has accepted is stored (`Outlet.Delivers`) or not. Which
of these a standard stream does is decided by its descriptor. An attached one shows all of its
faults (`Outlet.standard_eq_plain`). One without room fails every write with its own error
(`Outlet.fails_standard_iff`), and only where that error is that it is bad (`Faults.Detached`) the
stream accepts everything, and keeps nothing.
-/

namespace GreetingCheck

/-- A descriptor that never answers that it is bad. -/
structure Faults.Attached (faults : Faults) : Prop where
  room : ∀ room, faults.room = some room → room.whenFull.error ≠ .system .badDescriptor
  flushFault : ∀ fault, faults.flushFault = some fault → fault.error ≠ .system .badDescriptor

theorem Faults.Reliable.attached {faults : Faults} (h : faults.Reliable) : faults.Attached := by
  refine ⟨?_, ?_⟩
  · simp [h.room]
  · simp [h.flushFault]

/-! ## Errors of a writer -/

namespace Writer

variable {faults : Faults} {w w' : Writer} {bytes : List UInt8}

/-- The answer of a full writer. -/
private def replyWhenFull : WhenFull → Reply
  | .refuse => .accepted 0
  | .fail error _ => .failed error

private theorem full?_eq {room : Room} (hroom : faults.room = some room) :
    w.full? faults =
      if room.bytes ≤ w.stored.length then some (replyWhenFull room.whenFull) else none := by
  rw [full?, hroom, Option.bind_some]
  cases room.whenFull <;> rfl

/-- A call fails with no other error than that of the full writer. -/
theorem failed_of_write {error : IoError} (h : w.write faults bytes = (.failed error, w')) :
    ∃ room, faults.room = some room ∧ error = room.whenFull.error := by
  obtain ⟨hreply, -⟩ := eq_of_not_interrupted h (by simp)
  cases hroom : faults.room with
  | none => simp [full?, hroom] at hreply
  | some room =>
    refine ⟨room, rfl, ?_⟩
    rw [full?_eq hroom] at hreply
    by_cases hfull : room.bytes ≤ w.stored.length
    · cases hwhen : room.whenFull <;> simp [hfull, hwhen, replyWhenFull] at hreply
      exact hreply
    · simp [hfull] at hreply

/-- A write fails with the error of the full writer, or because a call has taken nothing. -/
theorem error_of_writeAll {error : IoError} (h : (w.writeAll faults bytes).1 = .error error) :
    error = .wholeBuffer ∨ ∃ room, faults.room = some room ∧ error = room.whenFull.error := by
  -- along the calls: the last of them decides
  induction bytes, w using writeAll.induct faults with
  | case1 w => simp [writeAll] at h
  | case2 w b rest w' hcall ih =>
    rw [writeAll_cons, hcall] at h
    exact ih h
  | case3 w b rest error' w' hcall =>
    rw [writeAll_cons, hcall] at h
    cases h
    exact .inr (failed_of_write hcall)
  | case4 w b rest w' hcall =>
    rw [writeAll_cons, hcall] at h
    cases h
    exact .inl rfl
  | case5 w b rest count w' hcall ih =>
    rw [writeAll_cons, hcall] at h
    exact ih h

end Writer

namespace Outlet

variable {faults : Faults} {outlet : Outlet} {error : IoError}

/-! ## Calls through an outlet -/

@[simp] theorem carryOut_put_plain (faults : Faults) (bytes : List UInt8) (w : Writer) :
    ((plain faults).put bytes).carryOut w = w.writeAll faults bytes := rfl

theorem excused_error (h : error ≠ .system .badDescriptor) :
    excused (.error error) = .error error := by
  unfold excused
  split
  next heq => exact absurd (Except.error.inj heq) h
  next => rfl

/-- An attached standard stream is an outlet like any other one. -/
theorem standard_eq_plain (h : faults.Attached) : standard faults = plain faults := by
  -- no error that an attached descriptor answers with is one that the stream keeps to itself
  have hput (bytes : List UInt8) (w : Writer) :
      excused (w.writeAll faults bytes).1 = (w.writeAll faults bytes).1 := by
    cases hresult : (w.writeAll faults bytes).1 with
    | ok => rfl
    | error error =>
      apply excused_error
      rcases Writer.error_of_writeAll hresult with rfl | ⟨room, hroom, rfl⟩
      · simp [IoError.wholeBuffer]
      · exact h.room room hroom
  have hflush (w : Writer) : excused (w.flush faults).1 = (w.flush faults).1 := by
    rw [Writer.flush_eq]
    cases hresult : faults.flushVerdict (w.flushes + 1) with
    | ok => rfl
    | error error =>
      exact excused_error (h.flushFault _ (Faults.flushFault_of_flushVerdict hresult))
  rw [standard, plain]
  congr
  · funext bytes w
    exact congrArg (·, _) (hput bytes w)
  · funext w
    exact congrArg (·, _) (hflush w)

/-! ## Outlets that keep what they accept -/

/-- What an outlet has accepted is stored, behind what was stored before. -/
structure Delivers (outlet : Outlet) : Prop where
  put : ∀ {bytes w w'}, (outlet.put bytes).carryOut w = (.ok (), w') →
    w'.stored = w.stored ++ bytes
  flush : ∀ w, (outlet.flush.carryOut w).2.stored = w.stored

theorem delivers_plain (faults : Faults) : (plain faults).Delivers :=
  ⟨Writer.stored_of_writeAll, Writer.stored_flush faults⟩

theorem delivers_of_attached (h : faults.Attached) : (standard faults).Delivers := by
  rw [standard_eq_plain h]
  exact delivers_plain faults

/-! ## Outlets that accept everything -/

/-- Every call through an outlet succeeds. -/
structure Accepts (outlet : Outlet) : Prop where
  put : ∀ bytes w, ∃ w', (outlet.put bytes).carryOut w = (.ok (), w')
  flush : ∀ w, ∃ w', outlet.flush.carryOut w = (.ok (), w')

theorem accepts_plain (h : faults.Reliable) : (plain faults).Accepts where
  put bytes w := ⟨_, Prod.ext (Writer.writeAll_eq_ok h bytes w) rfl⟩
  flush w := ⟨_, Prod.ext (Writer.flush_eq_ok h.flushFault w) rfl⟩

theorem accepts_of_reliable (h : faults.Reliable) : (standard faults).Accepts := by
  rw [standard_eq_plain h.attached]
  exact accepts_plain h

end Outlet

end GreetingCheck
