import GreetingCheck.Json.Mismatch

/-!
# Decoders

A decoder reads a record one token at a time. Every token takes it to its next state or stops it
with an error, so whatever is wrong is reported at the first token that shows it, and nothing
behind that token is looked at. Once a decoder has its result, nothing but the end of the text may
follow.
-/

namespace GreetingCheck.Json

/-- A reader of records of type `α`. -/
structure Decoder (α : Type) where
  /-- What the decoder remembers of the tokens it has read. -/
  State : Type
  /-- The state in which nothing has been read. -/
  start : State
  /-- Reads one token. -/
  step : State → Token → Except DecodeError State
  /-- What has to come next. -/
  wants : State → Wanted
  /-- The record, once it is complete. -/
  result? : State → Option α

namespace Decoder

variable {α : Type}

/-- Reads tokens up to their end. -/
def run (d : Decoder α) (ending : Ending) : d.State → List Token → Except DecodeError α
  | s, [] =>
    match d.result? s, ending with
    | some a, .complete => .ok a
    | some _, .flawed _ => .error (.fault .malformed)
    | none, .complete => .error (.fault .ended)
    | none, .flawed flaw => .error (.fault (flaw.blame (d.wants s)))
  | s, token :: rest =>
    match d.result? s with
    | some _ => .error (.fault .malformed)
    | none => do run d ending (← d.step s token) rest

/-- Reads a whole text. -/
def decode (d : Decoder α) (text : String) : Except DecodeError α :=
  let (tokens, ending) := scan text.toList
  d.run ending d.start tokens

end Decoder

end GreetingCheck.Json
