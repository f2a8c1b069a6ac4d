import GreetingCheck.Json.Token

/-!
# JSON values

A JSON value is determined by its tokens and determines them: `tokens` lists them, and compact
JSON is what they look like with nothing between them. The order of the entries of an object and
their repetitions are kept.
-/

namespace GreetingCheck

/-- A JSON value. -/
inductive Json
  | null
  | boolean (b : Bool)
  | number (n : Json.Numeral)
  | text (s : String)
  | array (items : List Json)
  | object (entries : List (String × Json))

namespace Json

mutual

/-- The tokens of a value. -/
def tokens : Json → List Token
  | .null => [.null]
  | .boolean b => [.boolean b]
  | .number n => [.number n]
  | .text s => [.text s]
  | .array items => .openArray :: itemTokens items ++ [.closeArray]
  | .object entries => .openObject :: entryTokens entries ++ [.closeObject]

/-- The tokens of the items of an array, with commas between them. -/
def itemTokens : List Json → List Token
  | [] => []
  | [v] => v.tokens
  | v :: w :: rest => v.tokens ++ .comma :: itemTokens (w :: rest)

/-- The tokens of the entries of an object, with commas between them. -/
def entryTokens : List (String × Json) → List Token
  | [] => []
  | [(key, v)] => .text key :: .colon :: v.tokens
  | (key, v) :: e :: rest => .text key :: .colon :: v.tokens ++ .comma :: entryTokens (e :: rest)

end

/-- A value as it is written without any blanks. -/
def compact (v : Json) : String := .ofList (v.tokens.flatMap Token.write)

end Json

end GreetingCheck
