import GreetingCheck.CommandLine.Item

/-!
# The help

The two texts that explain the command line to a user.
-/

namespace GreetingCheck.CommandLine

/-- The lines that both forms of the help start with. -/
def helpHeading : List String :=
  ["Top-level CLI definition",
   "",
   "Usage: arg-gate [OPTIONS] [ARGS]...",
   "",
   "Arguments:"]

/-- The lines of the short help behind its heading. -/
def shortHelp : List String :=
  ["  [ARGS]...  Arguments to check; only the first one decides the outcome",
   "",
   "Options:",
   "      --version          Print version information and exit",
   "      --lang <LANG>      Preferred output language (overrides `ARG_GATE_LANG`)" ++
      " [possible values: en, ca]",
   "      --format <FORMAT>  Report format [default: text] [possible values: text, json]",
   "  -h, --help             Print help (see more with '--help')"]

/-- The lines of the long help behind its heading. -/
def longHelp : List String :=
  ["  [ARGS]...",
   "          Arguments to check; only the first one decides the outcome",
   "",
   "Options:",
   "      --version",
   "          Print version information and exit",
   "",
   "      --lang <LANG>",
   "          Preferred output language (overrides `ARG_GATE_LANG`)",
   "",
   "          Possible values:",
   "          - en: English",
   "          - ca: Catalan",
   "",
   "      --format <FORMAT>",
   "          Report format",
   "",
   "          Possible values:",
   "          - text: One localized line per diagnostic",
   "          - json: One JSON object per diagnostic",
   "          ",
   "          [default: text]",
   "",
   "  -h, --help",
   "          Print help (see a summary with '-h')"]

/-- The text of the help, without the end of its last line. -/
def HelpForm.text (form : HelpForm) : String :=
  "\n".intercalate (helpHeading ++
    match form with
    | .short => shortHelp
    | .long => longHelp)

end GreetingCheck.CommandLine
