import GreetingCheck.Locale
import GreetingCheck.Text.Utf8

/-!
# The items of a command line

A command line is a list of raw arguments, bytes that need not be text. In front of the first
argument that is to be checked, a raw argument may have a meaning of its own: it may name an
option or close the options. `Item.ofRaw` tells which; a name is recognised only if it is written
out exactly, and everything that is not recognised is plain.
-/

namespace GreetingCheck.CommandLine

/-- An argument as the operating system hands it over. -/
abbrev Raw := List UInt8

/-- The form of a report. -/
inductive Format
  /-- A line of text for each diagnostic. -/
  | text
  /-- A JSON object for each diagnostic. -/
  | json
  deriving DecidableEq

namespace Format

/-- Every form of a report, in the order in which they are listed to a user. -/
def all : List Format := [.text, .json]

/-- The form of a report that is not asked for in another form. -/
def fallback : Format := .text

/-- The name of a form. -/
def label : Format → String
  | .text => "text"
  | .json => "json"

/-- The form with a given name. -/
def ofLabel? (name : String) : Option Format := all.find? (·.label = name)

@[simp] theorem ofLabel?_label (f : Format) : ofLabel? f.label = some f := by
  cases f <;> decide

end Format

/-- An option that takes a value. -/
inductive Setting
  | lang
  | format
  deriving DecidableEq

/-- An option that takes none. -/
inductive Flag
  | version
  | help
  deriving DecidableEq

/-- How much help is asked for. -/
inductive HelpForm
  | short
  | long
  deriving DecidableEq

/-- What a raw argument means in front of the first argument to be checked. -/
inductive Item
  /-- Two hyphens, which close the options. -/
  | separator
  /-- An option that takes a value, with the value if it is attached by an equals sign. -/
  | setting (s : Setting) (attached : Option Raw)
  /-- An option that takes no value. -/
  | flag (f : Flag)
  /-- An option that takes no value, with a value attached. -/
  | flagWithValue (f : Flag) (value : Raw)
  /-- A request for the short help. -/
  | shortHelp
  /-- Two hyphens and a name that is no text. -/
  | unreadable (name : Raw)
  /-- None of these. -/
  | plain
  deriving DecidableEq

namespace Item

/-- The hyphen. -/
def hyphen : UInt8 := 45

/-- The equals sign. -/
def equals : UInt8 := 61

/-- The letter that asks for the short help. -/
def letterH : UInt8 := 104

/-- What two hyphens and a name mean, given a value that may be attached. -/
def ofName (name : String) (attached : Option Raw) : Item :=
  if name = "lang" then .setting .lang attached
  else if name = "format" then .setting .format attached
  else if name = "version" then ofFlag .version
  else if name = "help" then ofFlag .help
  else .plain
where
  ofFlag (f : Flag) : Item :=
    match attached with
    | none => .flag f
    | some value => .flagWithValue f value

/-- The bytes behind the first equals sign, if there is one. -/
def attached? (body : Raw) : Option Raw :=
  match body.dropWhile (· ≠ equals) with
  | [] => none
  | _ :: value => some value

/-- What two hyphens and more mean. -/
def ofLong (body : Raw) : Item :=
  let name := body.takeWhile (· ≠ equals)
  match Text.Utf8.decode? name with
  | some text => ofName (.ofList text) (attached? body)
  | none => .unreadable name

/-- What a raw argument means. The letter of the short help may be repeated. -/
def ofRaw : Raw → Item
  | [] => .plain
  | b :: rest =>
    if b = hyphen then
      match rest with
      | [] => .plain
      | c :: body =>
        if c = hyphen then if body.isEmpty then .separator else ofLong body
        else if rest.all (· = letterH) then .shortHelp
        else .plain
    else .plain

end Item

end GreetingCheck.CommandLine
