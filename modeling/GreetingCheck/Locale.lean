import GreetingCheck.Text.Blank

/-!
# Locales

The languages that messages are available in. A locale is named by its two-letter label; a request
for one may carry white space around it, may be in any case, and may add a region or an encoding
after `-`, `_` or `.`, as in `ca_ES.UTF-8`.
-/

namespace GreetingCheck

/-- A supported language. -/
inductive Locale
  | english
  | catalan
  deriving DecidableEq

namespace Locale

/-- The supported locales, in the order in which they are listed to a user. -/
def all : List Locale := [.english, .catalan]

/-- The locale in use where none was asked for. -/
def fallback : Locale := .english

/-- The two-letter label of a locale. -/
def label : Locale → String
  | .english => "en"
  | .catalan => "ca"

/-- The locale with exactly a given label. -/
def ofLabel? (name : String) : Option Locale := all.find? (·.label = name)

/-- Whether a character separates the language of a request from what follows it. -/
def isSeparator (c : Char) : Bool := c = '-' || c = '_' || c = '.'

/-- The language that a request names: what stands before the first separator, in lower case. -/
def language (request : List Char) : List Char :=
  ((Text.trim request).map Char.toLower).takeWhile (!isSeparator ·)

/-- The locale that a request asks for. -/
def ofRequest? (request : String) : Option Locale := ofLabel? (.ofList (language request.toList))

@[simp] theorem ofLabel?_label (l : Locale) : ofLabel? l.label = some l := by
  cases l <;> decide

end Locale

end GreetingCheck
