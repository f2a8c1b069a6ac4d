import GreetingCheck.Report

/-!
# Sinks that keep the diagnostics

The plainest sinks keep what they are given as a list, in order. One keeps everything; the other has
room for a fixed number of diagnostics and rejects every later one for a fixed reason.
-/

namespace GreetingCheck.Collection

/-- The sink that keeps every diagnostic. -/
def unlimited : Sink (List Diagnostic) where
  emit d := .ofFunction fun kept => (.ok (), kept ++ [d])

/-- The sink that keeps `limit` diagnostics and rejects every later one for the given reason. -/
def limited (limit : Nat) (reason : String) : Sink (List Diagnostic) where
  emit d := .ofFunction fun kept =>
    if kept.length < limit then (.ok (), kept ++ [d]) else (.error ⟨reason⟩, kept)

end GreetingCheck.Collection
