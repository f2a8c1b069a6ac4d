import GreetingCheck.Json.Value

/-!
# Reading values of any shape

How far a JSON value has been read is told by the arrays and objects that are still open,
innermost first, and by what may come next. A token takes one such state to the next. The nesting
is limited: an array or object that would have to be opened beyond the limit is refused at its
opening bracket.
-/

namespace GreetingCheck.Json

/-- An array or object whose next item or entry is being read. -/
inductive Frame
  | array (before : List Json)
  | object (before : List (String × Json)) (key : String)

/-- How far a value has been read. -/
inductive Reading
  /-- A value has to come next. -/
  | value (outer : List Frame)
  /-- An array has just been opened. -/
  | opened (outer : List Frame)
  /-- An object has just been opened. -/
  | firstKey (outer : List Frame)
  /-- The key of a further entry has to come next. -/
  | nextKey (before : List (String × Json)) (outer : List Frame)
  /-- The colon behind a key has to come next. -/
  | colon (before : List (String × Json)) (key : String) (outer : List Frame)
  /-- An item or an entry is complete: a comma or a closing bracket has to come next. -/
  | closed (v : Json) (inner : Frame) (outer : List Frame)
  /-- The whole value is complete. -/
  | done (v : Json)

namespace Reading

/-- The state after a value inside of open arrays and objects. -/
def settle (v : Json) : List Frame → Reading
  | [] => .done v
  | inner :: outer => .closed v inner outer

/-- Reads the first token of a value. -/
def enter (limit : Nat) (outer : List Frame) : Token → Except Fault Reading
  | .null => .ok (settle .null outer)
  | .boolean b => .ok (settle (.boolean b) outer)
  | .number n => .ok (settle (.number n) outer)
  | .text s => .ok (settle (.text s) outer)
  | .openArray => if outer.length < limit then .ok (.opened outer) else .error .malformed
  | .openObject => if outer.length < limit then .ok (.firstKey outer) else .error .malformed
  | .closeArray | .closeObject | .comma | .colon => .error .malformed

/-- Reads one token of a value in which at most `limit` arrays and objects are open at a time. -/
def step (limit : Nat) : Reading → Token → Except Fault Reading
  | .value outer, token => enter limit outer token
  | .opened outer, .closeArray => .ok (settle (.array []) outer)
  | .opened outer, token => enter limit (.array [] :: outer) token
  | .firstKey outer, .closeObject => .ok (settle (.object []) outer)
  | .firstKey outer, .text key => .ok (.colon [] key outer)
  | .nextKey before outer, .text key => .ok (.colon before key outer)
  | .colon before key outer, .colon => .ok (.value (.object before key :: outer))
  | .closed v (.array before) outer, .comma => .ok (.value (.array (before ++ [v]) :: outer))
  | .closed v (.array before) outer, .closeArray => .ok (settle (.array (before ++ [v])) outer)
  | .closed v (.object before key) outer, .comma => .ok (.nextKey (before ++ [(key, v)]) outer)
  | .closed v (.object before key) outer, .closeObject =>
    .ok (settle (.object (before ++ [(key, v)])) outer)
  | _, _ => .error .malformed

/-- What may come next. -/
def wants : Reading → Wanted
  | .value _ | .opened _ => .value
  | .firstKey _ | .nextKey _ _ => .text
  | .colon _ _ _ | .closed _ _ _ | .done _ => .mark

end Reading

end GreetingCheck.Json
