import GreetingCheck.CommandLine.UsageError

/-!
# What a command line asks for

The options stand in front of the arguments to be checked. They are read from left to right up to
the first raw argument that is no option, or up to the separator; from there on every raw argument
is one to be checked, whatever it looks like.

The value of a setting is attached to it or is the next raw argument, unless that one has a
meaning of its own. A value that is a raw argument of its own is looked at only when the next item
is reached.
-/

namespace GreetingCheck.CommandLine

/-- A run as a command line asks for it. -/
structure Invocation where
  /-- Whether only the version is to be shown. -/
  version : Bool
  /-- The locale asked for, if any. -/
  lang : Option Locale
  format : Format
  /-- The arguments to be checked. -/
  positionals : List Raw
  deriving DecidableEq

/-- What a command line asks for. -/
inductive Request
  | help (form : HelpForm)
  | run (invocation : Invocation)
  deriving DecidableEq

/-- The options read so far. -/
structure Options where
  version : Bool := false
  lang : Option Locale := none
  format : Option Format := none
  /-- The last setting, with its value if that has been met, as long as it has not
  been looked at. -/
  pending : Option (Setting × Option Raw) := none
  deriving DecidableEq

namespace Options

/-- Looks a value of a setting up by its exact name. -/
def valueOf {α : Type} (s : Setting) (ofLabel? : String → Option α) (value : Raw) :
    Except UsageError α :=
  if value.isEmpty then .error (.valueRequired s)
  else
    match (Text.Utf8.decode? value).bind fun name => ofLabel? (.ofList name) with
    | some a => .ok a
    | none => .error (.invalidValue s value)

/-- Takes the value of a setting. That the setting is given twice counts before what
the value is. -/
def accept (o : Options) (s : Setting) (value : Raw) : Except UsageError Options :=
  match s with
  | .lang =>
    if o.lang.isSome then .error (.repeatedSetting .lang)
    else (valueOf .lang Locale.ofLabel? value).map fun l => { o with lang := some l }
  | .format =>
    if o.format.isSome then .error (.repeatedSetting .format)
    else (valueOf .format Format.ofLabel? value).map fun f => { o with format := some f }

/-- Looks at the last setting, if that has not been done. -/
def settle (o : Options) : Except UsageError Options :=
  match o.pending with
  | none => .ok o
  | some (s, none) => .error (.valueRequired s)
  | some (s, some value) => accept { o with pending := none } s value

/-- The run that options and the arguments behind them ask for. -/
def invocation (o : Options) (positionals : List Raw) : Invocation :=
  ⟨o.version, o.lang, o.format.getD .fallback, positionals⟩

/-- Closes the options in front of the arguments to be checked. -/
def close (o : Options) (positionals : List Raw) : Except UsageError Request := do
  return .run ((← o.settle).invocation positionals)

end Options

/-- Reads a command line on from the options read so far. -/
def readFrom (o : Options) : List Raw → Except UsageError Request
  | [] => o.close []
  | raw :: rest =>
    match Item.ofRaw raw with
    | .separator => o.close rest
    | .unreadable name => .error (.unexpectedArgument name)
    | .flagWithValue f value => .error (.unexpectedValue f value)
    | .shortHelp => do
      let _ ← o.settle
      return .help .short
    | .flag .help => do
      let _ ← o.settle
      return .help .long
    | .flag .version => do
      let o ← o.settle
      if o.version then .error (.repeatedFlag .version)
      else readFrom { o with version := true } rest
    | .setting s (some value) => do
      let o ← o.settle
      readFrom (← o.accept s value) rest
    | .setting s none => do
      let o ← o.settle
      readFrom { o with pending := some (s, none) } rest
    | .plain =>
      match o.pending with
      | some (s, none) => readFrom { o with pending := some (s, some raw) } rest
      | _ => o.close (raw :: rest)

/-- Reads a command line. -/
def Request.ofArguments (args : List Raw) : Except UsageError Request := readFrom {} args

end GreetingCheck.CommandLine
