import GreetingCheck.Stream.Writer

/-!
# Outlets

Lines reach a writer through an outlet, which passes the answers of the writer on. A standard stream
of a process keeps one of them to itself: that its descriptor is bad, as it is where the process was
started without the stream, counts as success. So a process whose output nobody wants to have does
not fail for it.
-/

namespace GreetingCheck

/-- A way to a writer. -/
structure Outlet where
  /-- Writes all of the bytes. -/
  put : List UInt8 → Output Unit
  /-- Flushes the writer. -/
  flush : Output Unit
  /-- Where there is nothing to write, nothing happens. -/
  put_nil : put [] = pure ()

namespace Outlet

/-- The way to a writer that passes every answer on. -/
def plain (faults : Faults) : Outlet where
  put := Output.put faults
  flush := Output.flush faults
  put_nil := Output.put_nil faults

/-- What a standard stream makes of the answer of its descriptor. -/
def excused : Except IoError Unit → Except IoError Unit
  | .error (.system .badDescriptor) => .ok ()
  | answer => answer

/-- A standard stream whose descriptor has some faults. -/
def standard (faults : Faults) : Outlet where
  put bytes := ExceptT.mk do return excused (← (Output.put faults bytes).run)
  flush := ExceptT.mk do return excused (← (Output.flush faults).run)
  put_nil := by
    rw [Output.put_nil]
    rfl

end Outlet

end GreetingCheck
