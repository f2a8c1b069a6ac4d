/-!
# Message templates

A template is a text with placeholders, a name in braces each. Filling a template goes through the
arguments one after the other: each replaces every placeholder of its name in the text as it then
stands, so that the value of one argument may bring in a placeholder for a later one, and an
argument never looks into its own value.
-/

namespace GreetingCheck.Text.Template

/-- The placeholder of a name. -/
def placeholder (name : List Char) : List Char := '{' :: name ++ ['}']

/-- Replaces every placeholder of one name, from left to right. -/
def fill (name value : List Char) : List Char → List Char
  | [] => []
  | c :: rest =>
    if (placeholder name).isPrefixOf (c :: rest) then
      -- the opening brace is `c`; the name and the closing brace lie in `rest`
      value ++ fill name value (rest.drop (name.length + 1))
    else c :: fill name value rest
termination_by text => text.length
decreasing_by
  · simp only [List.length_drop, List.length_cons]; omega
  · simp

/-- An argument of a message: the name of the placeholders it replaces, and what replaces them. -/
structure Argument where
  name : String
  value : String

/-- Fills a template with the arguments, in their order. -/
def format (template : String) (args : List Argument) : String :=
  .ofList (args.foldl (fun text a => fill a.name.toList a.value.toList text) template.toList)

end GreetingCheck.Text.Template
