import GreetingCheck.Json.Value
import GreetingCheck.Text.Shown

/-!
# JSON of the wrong shape

A JSON text may hold something else than the record it is read as. A mismatch says what was found
and what was expected in its place, and `DecodeError` is everything that can keep a text from
being a record.
-/

namespace GreetingCheck.Json

/-- What was found where something else was expected. -/
inductive Unexpected
  | integer (n : Int)
  | floatingPoint
  | boolean (b : Bool)
  | text (s : String)
  | null
  | sequence
  | map
  deriving DecidableEq

namespace Unexpected

/-- The words for what was found. A floating point number is left out of its words on purpose: how
it is printed depends on the rounding of its value, and not on the text that was read. -/
def describe : Unexpected → String
  | .integer n => "integer `" ++ Text.Decimal.render n ++ "`"
  | .floatingPoint => "floating point"
  | .boolean true => "boolean `true`"
  | .boolean false => "boolean `false`"
  | .text s => "string " ++ Text.shown s
  | .null => "null"
  | .sequence => "sequence"
  | .map => "map"

/-- A numeral counts as the integer it stands for, if there is one. -/
def ofNumeral (n : Numeral) : Unexpected :=
  match n.toInt? with
  | some i => .integer i
  | none => .floatingPoint

/-- What a token starts, if it starts a value. -/
def ofToken? : Token → Option Unexpected
  | .openArray => some .sequence
  | .openObject => some .map
  | .null => some .null
  | .boolean b => some (.boolean b)
  | .number n => some (ofNumeral n)
  | .text s => some (.text s)
  | .closeArray | .closeObject | .comma | .colon => none

/-- What a value is. -/
def ofJson : Json → Unexpected
  | .null => .null
  | .boolean b => .boolean b
  | .number n => ofNumeral n
  | .text s => .text s
  | .array _ => .sequence
  | .object _ => .map

end Unexpected

/-- Why a JSON value is not the record it is read as. -/
inductive Mismatch
  /-- Something of another type than expected. -/
  | invalidType (found : Unexpected) (expected : String)
  /-- Something of the right type that is none of the expected values. -/
  | invalidValue (found : Unexpected) (expected : String)
  /-- Too few or too many items. -/
  | invalidLength (length : Nat) (expected : String)
  /-- A name that is none of the known ones. -/
  | unknownVariant (name : String) (known : List String)
  /-- A field that has to be there is not. -/
  | missingField (name : String)
  /-- A field is there more than once. -/
  | duplicateField (name : String)
  deriving DecidableEq

namespace Mismatch

/-- Names as alternatives. -/
def alternatives : List String → String
  | [] => "nothing"
  | [a] => "`" ++ a ++ "`"
  | [a, b] => "`" ++ a ++ "` or `" ++ b ++ "`"
  | names => "one of " ++ ", ".intercalate (names.map fun name => "`" ++ name ++ "`")

/-- The text of a mismatch. -/
def message : Mismatch → String
  | .invalidType found expected => "invalid type: " ++ found.describe ++ ", expected " ++ expected
  | .invalidValue found expected => "invalid value: " ++ found.describe ++ ", expected " ++ expected
  | .invalidLength length expected =>
    "invalid length " ++ Text.Decimal.render length ++ ", expected " ++ expected
  | .unknownVariant name known =>
    "unknown variant `" ++ name ++ "`, expected " ++ alternatives known
  | .missingField name => "missing field `" ++ name ++ "`"
  | .duplicateField name => "duplicate field `" ++ name ++ "`"

end Mismatch

/-- Why a text is not the record it is read as. -/
inductive DecodeError
  /-- It is no JSON. -/
  | fault (fault : Fault)
  /-- It is JSON, as far as it was read, but not of the right shape. -/
  | mismatch (mismatch : Mismatch)
  deriving DecidableEq

/-- The error of a place that wants a value but holds a token of something else. -/
def DecodeError.unexpected (token : Token) (expected : String) : DecodeError :=
  match Unexpected.ofToken? token with
  | some found => .mismatch (.invalidType found expected)
  | none => .fault .malformed

end GreetingCheck.Json
