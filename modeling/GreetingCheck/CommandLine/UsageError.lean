import GreetingCheck.CommandLine.Item
import GreetingCheck.Text.Plain

/-!
# Complaints about a command line

What can be wrong with the options of a command line, and the words for it. A raw argument is
quoted with replacement characters for what is no text, and without anything that would control
the terminal.
-/

namespace GreetingCheck.CommandLine

/-- A setting as it is presented to a user. -/
def Setting.usage : Setting → String
  | .lang => "--lang <LANG>"
  | .format => "--format <FORMAT>"

/-- The values that a setting may have. -/
def Setting.values : Setting → List String
  | .lang => Locale.all.map Locale.label
  | .format => Format.all.map Format.label

/-- A flag as it is presented to a user. -/
def Flag.usage : Flag → String
  | .version => "--version"
  | .help => "--help"

/-- What is wrong with the options of a command line. -/
inductive UsageError
  /-- A setting has no value, or an empty one. -/
  | valueRequired (s : Setting)
  /-- A setting has none of its values. -/
  | invalidValue (s : Setting) (value : Raw)
  /-- A setting is given twice. -/
  | repeatedSetting (s : Setting)
  /-- A flag is given twice. -/
  | repeatedFlag (f : Flag)
  /-- A flag is given a value. -/
  | unexpectedValue (f : Flag) (value : Raw)
  /-- The name of an option is no text. -/
  | unexpectedArgument (name : Raw)
  deriving DecidableEq

namespace UsageError

/-- A raw argument inside a message. -/
def quote (raw : Raw) : String := "'" ++ .ofList (Text.plain (Text.Utf8.decodeLossy raw)) ++ "'"

/-- The line that lists the values of a setting. -/
def possibleValues (s : Setting) : String :=
  "\n  [possible values: " ++ ", ".intercalate s.values ++ "]"

/-- The text of a complaint. -/
def message : UsageError → String
  | .valueRequired s =>
    "error: a value is required for '" ++ s.usage ++ "' but none was supplied" ++ possibleValues s
  | .invalidValue s value =>
    "error: invalid value " ++ quote value ++ " for '" ++ s.usage ++ "'" ++ possibleValues s
  | .repeatedSetting s => repeatedOption s.usage
  | .repeatedFlag f => repeatedOption f.usage
  | .unexpectedValue f value =>
    "error: unexpected value " ++ quote value ++ " for '" ++ f.usage ++
      "' found; no more were expected"
  | .unexpectedArgument name => "error: unexpected argument " ++ quote (dashes ++ name) ++ " found"
where
  repeatedOption (usage : String) : String :=
    "error: the argument '" ++ usage ++ "' cannot be used multiple times"
  dashes : Raw := [Item.hyphen, Item.hyphen]

end UsageError

end GreetingCheck.CommandLine
