import GreetingCheck.Outcome
import GreetingCheck.Json.Decoder

/-!
# Outcomes as JSON

An outcome is written as its label. It may also be read from an object whose only entry has the
label as its key and nothing, that is `null`, as its value. A text that is neither a string nor
such an object is not looked at any further. That goes for the key, too: where it is no string, the
text counts as no JSON from there on, whatever it is instead.

Inside another record an outcome comes as a JSON value that has been read already (`ofJson`);
there an empty object counts as nothing, too.
-/

namespace GreetingCheck.Outcome

open Json

/-- The JSON value of an outcome. -/
def toJson (o : Outcome) : Json := .text o.label

/-- An outcome as compact JSON. -/
def encode (o : Outcome) : String := o.toJson.compact

/-- The outcome with a given label. -/
def named (name : String) : Except Mismatch Outcome :=
  match ofLabel? name with
  | some o => .ok o
  | none => .error (.unknownVariant name labels)

/-! ## Reading a text -/

/-- How far an outcome has been read. -/
inductive Reading
  /-- Nothing has been read. -/
  | start
  /-- The object has been opened. -/
  | opened
  /-- The key of its entry has been read. -/
  | keyed (o : Outcome)
  /-- The colon behind the key has been read. -/
  | valued (o : Outcome)
  /-- The value of the entry has been read. -/
  | closed (o : Outcome)
  /-- The outcome is complete. -/
  | done (o : Outcome)

namespace Reading

/-- Goes on with the outcome that has a given label. -/
def named (name : String) (next : Outcome → Reading) : Except DecodeError Reading :=
  match Outcome.named name with
  | .ok o => .ok (next o)
  | .error mismatch => .error (.mismatch mismatch)

/-- Reads one token. -/
def step : Reading → Token → Except DecodeError Reading
  | .start, .text name => named name .done
  | .start, .openObject => .ok .opened
  | .opened, .text name => named name .keyed
  | .keyed o, .colon => .ok (.valued o)
  | .valued o, .null => .ok (.closed o)
  | .valued _, token => .error (.unexpected token "unit")
  | .closed o, .closeObject => .ok (.done o)
  -- also a key that is no string: `{1:null}` is malformed, and no mismatch
  | _, _ => .error (.fault .malformed)

/-- What may come next. -/
def wants : Reading → Wanted
  | .start | .opened => .text
  | .valued _ => .value
  | .keyed _ | .closed _ | .done _ => .mark

/-- The outcome, once it is complete. -/
def result? : Reading → Option Outcome
  | .done o => some o
  | _ => none

end Reading

/-- The reader of outcomes. -/
def decoder : Decoder Outcome where
  State := Reading
  start := .start
  step := Reading.step
  wants := Reading.wants
  result? := Reading.result?

/-- Reads an outcome from JSON. -/
def decode (text : String) : Except DecodeError Outcome := decoder.decode text

/-! ## Reading a value -/

/-- The outcome that a JSON value stands for inside another record. -/
def ofJson : Json → Except Mismatch Outcome
  | .text name => named name
  | .object [(name, v)] => do
    let o ← named name
    match v with
    | .null | .object [] => return o
    | v => throw (.invalidType (.ofJson v) "unit")
  | .object _ => .error (.invalidValue .map "map with a single key")
  | v => .error (.invalidType (.ofJson v) "string or map")

end GreetingCheck.Outcome
