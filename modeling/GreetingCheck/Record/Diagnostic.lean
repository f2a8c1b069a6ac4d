import GreetingCheck.Diagnostic
import GreetingCheck.Json.Decoder
import GreetingCheck.Json.Reading
import GreetingCheck.Record.Outcome

/-!
# Diagnostics as JSON

A diagnostic is written as an object with two entries: its kind under `event`, and its one field.
In reading, the entries may come in any order and others may stand among them. The kind is checked
where it is met; everything else is read as plain JSON up to the end of the object, and only then
is the field of that kind looked for. Alternatively a diagnostic may be read from an array of its
kind and its field.
-/

namespace GreetingCheck

open Json

namespace Diagnostic

/-- The kinds of diagnostic. -/
inductive Kind
  | scriptArguments
  | checkArguments
  | functionReturn
  | status
  deriving DecidableEq

namespace Kind

/-- Every kind, in the order in which they are listed to a user. -/
def all : List Kind := [.scriptArguments, .checkArguments, .functionReturn, .status]

/-- The name of a kind in records. -/
def name : Kind → String
  | .scriptArguments => "script_arguments"
  | .checkArguments => "check_arguments"
  | .functionReturn => "function_return"
  | .status => "status"

/-- The name of a kind in messages about its shape. -/
def title : Kind → String
  | .scriptArguments => "ScriptArguments"
  | .checkArguments => "CheckArguments"
  | .functionReturn => "FunctionReturn"
  | .status => "Status"

/-- The key of the field that the diagnostics of a kind carry. -/
def fieldName : Kind → String
  | .scriptArguments | .checkArguments => "joined"
  | .functionReturn => "code"
  | .status => "outcome"

/-- The kind with a given name. -/
def ofName? (s : String) : Option Kind := all.find? (·.name = s)

@[simp] theorem ofName?_name (k : Kind) : ofName? k.name = some k := by
  cases k <;> decide

end Kind

/-- The key under which the kind of a diagnostic is kept. -/
def kindKey : String := "event"

/-- The kind of a diagnostic. -/
def kind : Diagnostic → Kind
  | .scriptArguments _ => .scriptArguments
  | .checkArguments _ => .checkArguments
  | .functionReturn _ => .functionReturn
  | .status _ => .status

/-! ## Writing -/

/-- The JSON value of the field of a diagnostic. -/
def fieldJson : Diagnostic → Json
  | .scriptArguments joined => .text joined
  | .checkArguments joined => .text joined
  | .functionReturn code => .number (.ofInt code.toInt)
  | .status outcome => outcome.toJson

/-- The JSON value of a diagnostic. -/
def toJson (d : Diagnostic) : Json :=
  .object [(kindKey, .text d.kind.name), (d.kind.fieldName, d.fieldJson)]

/-- A diagnostic as compact JSON. -/
def encode (d : Diagnostic) : String := d.toJson.compact

/-! ## The field -/

/-- Reads a text field. -/
def joinedOfJson : Json → Except Mismatch String
  | .text s => .ok s
  | v => .error (.invalidType (.ofJson v) "a string")

/-- Reads a code, which has to fit 32 bits. -/
def codeOfJson : Json → Except Mismatch Int32
  | .number n =>
    match n.toInt? with
    | some i =>
      if h : Int32.minValue.toInt ≤ i ∧ i ≤ Int32.maxValue.toInt then .ok (.ofIntLE i h.1 h.2)
      else .error (.invalidValue (.integer i) "i32")
    | none => .error (.invalidType (.ofNumeral n) "i32")
  | v => .error (.invalidType (.ofJson v) "i32")

/-- The diagnostic of a kind with a given field. -/
def ofField (kind : Kind) (v : Json) : Except Mismatch Diagnostic :=
  match kind with
  | .scriptArguments => .scriptArguments <$> joinedOfJson v
  | .checkArguments => .checkArguments <$> joinedOfJson v
  | .functionReturn => .functionReturn <$> codeOfJson v
  | .status => .status <$> Outcome.ofJson v

/-- The diagnostic of a kind with the field that is found among the entries of an object. A second
field of that name is noticed only once the first has been accepted. -/
def ofEntries (kind : Kind) (entries : List (String × Json)) : Except Mismatch Diagnostic :=
  match entries.filter (·.1 = kind.fieldName) with
  | [] => .error (.missingField kind.fieldName)
  | [(_, v)] => ofField kind v
  | (_, v) :: _ :: _ => do
    let _ ← ofField kind v
    throw (.duplicateField kind.fieldName)

/-- The diagnostic of a kind with the items that follow the kind in an array. More than one item is
noticed only once the first has been accepted. -/
def ofItems (kind : Kind) : List Json → Except Mismatch Diagnostic
  | [] =>
    .error (.invalidLength 0 ("struct variant Diagnostic::" ++ kind.title ++ " with 1 element"))
  | [v] => ofField kind v
  | v :: rest => do
    let _ ← ofField kind v
    throw (.invalidLength (rest.length + 1) "1 element in sequence")

/-! ## Reading a text -/

/-- The most arrays and objects that may be open at a time inside a diagnostic; its own object or
array is one more. -/
def nestingLimit : Nat := 126

/-- An entry of the object of a diagnostic. -/
inductive Entry
  /-- The kind. -/
  | kind (kind : Kind)
  /-- Anything else. -/
  | other (key : String) (v : Json)

/-- The kind among the entries read so far. -/
def kind? (entries : List Entry) : Option Kind :=
  entries.findSome? fun
    | .kind kind => some kind
    | .other _ _ => none

/-- The entries read so far, apart from the kind. -/
def others (entries : List Entry) : List (String × Json) :=
  entries.filterMap fun
    | .kind _ => none
    | .other key v => some (key, v)

/-- How far a diagnostic has been read. -/
inductive Reading
  /-- Nothing has been read. -/
  | start
  /-- The object has just been opened. -/
  | firstKey
  /-- A comma has been read in the object. -/
  | nextKey (before : List Entry)
  /-- A key has been read. -/
  | keyed (before : List Entry) (key : String)
  /-- The kind has to come next as the value of an entry. -/
  | kindValue (before : List Entry)
  /-- The value of another entry is being read. -/
  | value (before : List Entry) (key : String) (inner : Json.Reading)
  /-- An entry is complete. -/
  | closed (before : List Entry)
  /-- The array has just been opened. -/
  | firstItem
  /-- An item of the array is complete. -/
  | closedItem (kind : Kind) (before : List Json)
  /-- An item behind the kind is being read. -/
  | item (kind : Kind) (before : List Json) (inner : Json.Reading)
  /-- The diagnostic is complete. -/
  | done (d : Diagnostic)

namespace Reading

/-- Reads a kind. -/
def readKind (next : Kind → Reading) : Token → Except DecodeError Reading
  | .text s =>
    match Kind.ofName? s with
    | some kind => .ok (next kind)
    | none => .error (.mismatch (.unknownVariant s (Kind.all.map Kind.name)))
  | token => .error (.unexpected token "variant identifier")

/-- Reads the key of an entry. A second kind is refused at its key. -/
def readKey (before : List Entry) : Token → Except DecodeError Reading
  | .text key =>
    if key = kindKey ∧ (kind? before).isSome then .error (.mismatch (.duplicateField kindKey))
    else .ok (.keyed before key)
  | _ => .error (.fault .malformed)

/-- Takes a token into the value of an entry. -/
def readValue (before : List Entry) (key : String) (inner : Json.Reading) (token : Token) :
    Except DecodeError Reading :=
  match inner.step nestingLimit token with
  | .ok (.done v) => .ok (.closed (before ++ [.other key v]))
  | .ok inner => .ok (.value before key inner)
  | .error fault => .error (.fault fault)

/-- Takes a token into an item of the array. -/
def readItem (kind : Kind) (before : List Json) (inner : Json.Reading) (token : Token) :
    Except DecodeError Reading :=
  match inner.step nestingLimit token with
  | .ok (.done v) => .ok (.closedItem kind (before ++ [v]))
  | .ok inner => .ok (.item kind before inner)
  | .error fault => .error (.fault fault)

/-- Ends the reading with a diagnostic or a mismatch. -/
def conclude : Except Mismatch Diagnostic → Except DecodeError Reading
  | .ok d => .ok (.done d)
  | .error mismatch => .error (.mismatch mismatch)

/-- Ends the object with the entries read. -/
def endObject (entries : List Entry) : Except DecodeError Reading :=
  match kind? entries with
  | some kind => conclude (ofEntries kind (others entries))
  | none => .error (.mismatch (.missingField kindKey))

/-- Reads one token. -/
def step : Reading → Token → Except DecodeError Reading
  | .start, .openObject => .ok .firstKey
  | .start, .openArray => .ok .firstItem
  | .start, token => .error (.unexpected token "internally tagged enum Diagnostic")
  | .firstKey, .closeObject => endObject []
  | .firstKey, token => readKey [] token
  | .nextKey before, token => readKey before token
  | .keyed before key, .colon =>
    .ok (if key = kindKey then .kindValue before else .value before key (.value []))
  | .kindValue before, token => readKind (fun kind => .closed (before ++ [.kind kind])) token
  | .value before key inner, token => readValue before key inner token
  | .closed before, .comma => .ok (.nextKey before)
  | .closed before, .closeObject => endObject before
  | .firstItem, .closeArray => .error (.mismatch (.missingField kindKey))
  | .firstItem, token => readKind (fun kind => .closedItem kind []) token
  | .closedItem kind before, .comma => .ok (.item kind before (.value []))
  | .closedItem kind before, .closeArray => conclude (ofItems kind before)
  | .item kind before inner, token => readItem kind before inner token
  | _, _ => .error (.fault .malformed)

/-- What may come next. -/
def wants : Reading → Wanted
  | .start | .kindValue _ | .firstItem => .value
  | .firstKey | .nextKey _ => .text
  | .value _ _ inner | .item _ _ inner => inner.wants
  | .keyed _ _ | .closed _ | .closedItem _ _ | .done _ => .mark

/-- The diagnostic, once it is complete. -/
def result? : Reading → Option Diagnostic
  | .done d => some d
  | _ => none

end Reading

/-- The reader of diagnostics. -/
def decoder : Decoder Diagnostic where
  State := Reading
  start := .start
  step := Reading.step
  wants := Reading.wants
  result? := Reading.result?

/-- Reads a diagnostic from JSON. -/
def decode (text : String) : Except DecodeError Diagnostic := decoder.decode text

end Diagnostic

end GreetingCheck
