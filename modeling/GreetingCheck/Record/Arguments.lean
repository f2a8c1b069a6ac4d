import GreetingCheck.Arguments
import GreetingCheck.Json.Decoder

/-!
# Arguments as JSON

Arguments are written as an array of strings. Reading takes the array item by item, so an item
that is no string is reported before anything that is wrong behind it.
-/

namespace GreetingCheck.Arguments

open Json

/-- The JSON value of arguments. -/
def toJson (args : Arguments) : Json := .array (args.toList.map .text)

/-- Arguments as compact JSON. -/
def encode (args : Arguments) : String := args.toJson.compact

/-- How far arguments have been read. -/
inductive Reading
  /-- Nothing has been read. -/
  | start
  /-- The array has just been opened. -/
  | opened
  /-- A comma has been read. -/
  | next (before : List String)
  /-- An item has been read. -/
  | closed (before : List String)
  /-- The array is complete. -/
  | done (args : Arguments)

namespace Reading

/-- Reads an item of the array. -/
def readItem (before : List String) : Token → Except DecodeError Reading
  | .text s => .ok (.closed (before ++ [s]))
  | token => .error (.unexpected token "a string")

/-- Reads one token. -/
def step : Reading → Token → Except DecodeError Reading
  | .start, .openArray => .ok .opened
  | .start, token => .error (.unexpected token "a sequence")
  | .opened, .closeArray => .ok (.done ⟨[]⟩)
  | .opened, token => readItem [] token
  | .next before, token => readItem before token
  | .closed before, .comma => .ok (.next before)
  | .closed before, .closeArray => .ok (.done ⟨before⟩)
  | .closed _, _ => .error (.fault .malformed)
  | .done _, _ => .error (.fault .malformed)

/-- What may come next. -/
def wants : Reading → Wanted
  | .start | .opened | .next _ => .value
  | .closed _ | .done _ => .mark

/-- The arguments, once they are complete. -/
def result? : Reading → Option Arguments
  | .done args => some args
  | _ => none

end Reading

/-- The reader of arguments. -/
def decoder : Decoder Arguments where
  State := Reading
  start := .start
  step := Reading.step
  wants := Reading.wants
  result? := Reading.result?

/-- Reads arguments from JSON. -/
def decode (text : String) : Except DecodeError Arguments := decoder.decode text

end GreetingCheck.Arguments
