import GreetingCheck.Locale
import GreetingCheck.Text.Template

/-!
# The message catalog

Everything the program says is an entry of the catalog. An entry has a key, the same in every
language, and a template in each locale, so no entry can be missing from one of them. A text that is
no key of an entry stands for itself: it is its own template.
-/

namespace GreetingCheck.Catalog

/-- A message of the program. -/
inductive Entry
  | version
  | scriptArguments
  | checkArguments
  | functionReturn
  | statusSuccess
  | statusFailure
  | encodeFailed
  | reportFailed
  | stdout
  | stderr
  | otherStream
  | writeFailed
  | invalidEnvironment
  | disclaimer
  deriving DecidableEq

namespace Entry

/-- Every message of the program. -/
def all : List Entry :=
  [.version, .scriptArguments, .checkArguments, .functionReturn, .statusSuccess, .statusFailure,
    .encodeFailed, .reportFailed, .stdout, .stderr, .otherStream, .writeFailed,
    .invalidEnvironment, .disclaimer]

/-- The key of a message. -/
def key : Entry → String
  | .version => "main.version"
  | .scriptArguments => "report.script_arguments"
  | .checkArguments => "report.check_arguments"
  | .functionReturn => "report.function_return"
  | .statusSuccess => "report.status.success"
  | .statusFailure => "report.status.failure"
  | .encodeFailed => "report.encode_failed"
  | .reportFailed => "report.failed"
  | .stdout => "output.stream.stdout"
  | .stderr => "output.stream.stderr"
  | .otherStream => "output.stream.unknown"
  | .writeFailed => "output.write_failed"
  | .invalidEnvironment => "i18n.lang.invalid_env"
  | .disclaimer => "i18n.disclaimer.machine_translated"

/-- The message with a given key. -/
def ofKey? (key : String) : Option Entry := all.find? (·.key = key)

/-- The English templates. -/
def english : Entry → String
  | .version => "arg-gate {version}"
  | .scriptArguments => "script arguments are: {args}"
  | .checkArguments => "test_gpu arguments are: {args}"
  | .functionReturn => "Function will return {code}"
  | .statusSuccess => "SUCCESS"
  | .statusFailure => "FAILURE"
  | .encodeFailed => "Failed to encode diagnostic as JSON: {error}"
  | .reportFailed => "Failed to report check result: {error}"
  | .stdout => "stdout"
  | .stderr => "stderr"
  | .otherStream => "output"
  | .writeFailed => "Failed to write to {stream}: {error}"
  | .invalidEnvironment => "Invalid value for {env}: {value}. Expected 'en' or 'ca'."
  | .disclaimer => "Note: non-English output is machine-translated and may be inaccurate."

/-- The Catalan templates. -/
def catalan : Entry → String
  | .version => "arg-gate {version}"
  | .scriptArguments => "els arguments de l'script són: {args}"
  | .checkArguments => "els arguments de test_gpu són: {args}"
  | .functionReturn => "La funció retornarà {code}"
  | .statusSuccess => "ÈXIT"
  | .statusFailure => "FRACÀS"
  | .encodeFailed => "No s'ha pogut codificar el diagnòstic com a JSON: {error}"
  | .reportFailed => "No s'ha pogut informar del resultat de la comprovació: {error}"
  | .stdout => "stdout"
  | .stderr => "stderr"
  | .otherStream => "sortida"
  | .writeFailed => "No s'ha pogut escriure a {stream}: {error}"
  | .invalidEnvironment => "Valor no vàlid per a {env}: {value}. S'esperava 'en' o 'ca'."
  | .disclaimer =>
    "Nota: la sortida que no és en anglès està traduïda automàticament i pot ser inexacta."

/-- The template of a message in a locale. -/
def template (locale : Locale) (entry : Entry) : String :=
  match locale with
  | .english => entry.english
  | .catalan => entry.catalan

@[simp] theorem ofKey?_key (e : Entry) : ofKey? e.key = some e := by
  cases e <;> decide

end Entry

open Text.Template

/-- The template that a key stands for in a locale. -/
def template (locale : Locale) (key : String) : String :=
  match Entry.ofKey? key with
  | some entry => entry.template locale
  | none => key

/-- The message of a key in a locale, with its arguments filled in. -/
def translate (locale : Locale) (key : String) (args : List Argument) : String :=
  format (template locale key) args

/-- A message of the program in a locale, with its arguments filled in. -/
def say (locale : Locale) (entry : Entry) (args : List Argument) : String :=
  translate locale entry.key args

end GreetingCheck.Catalog
