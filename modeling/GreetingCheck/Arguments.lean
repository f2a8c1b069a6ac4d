import GreetingCheck.Outcome

/-!
# The arguments of an invocation

An invocation hands over an ordered list of texts. The check looks at the first of them only; the
reports show all of them, joined by single spaces.
-/

namespace GreetingCheck

/-- The ordered arguments of one invocation. -/
structure Arguments where
  /-- The arguments in the order in which they were given. -/
  toList : List String
  deriving DecidableEq

namespace Arguments

/-- The first argument, if there is one. -/
def first? (args : Arguments) : Option String := args.toList.head?

/-- Whether no argument was given. -/
def isEmpty (args : Arguments) : Bool := args.toList.isEmpty

/-- The arguments in one line, with a single space between neighbours. -/
def joined (args : Arguments) : String := " ".intercalate args.toList

/-- The first argument that makes a check succeed. -/
def greeting : String := "hello"

/-- A check succeeds exactly when the first argument is the greeting, letter for letter. -/
def check (args : Arguments) : Outcome :=
  if args.first? = some greeting then .success else .failure

end Arguments

end GreetingCheck
