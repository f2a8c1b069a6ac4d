import GreetingCheck.Text.Utf8

/-!
# Texts without terminal control

A foreign text that is quoted on a terminal must not control it. `plain` leaves out control
sequences and every control character that is not white space. A sequence begins with an escape
character; how it ends depends on the character behind that.

White space of the control kind is shown even inside most sequences. It suspends the sequence: the
text behind it is shown as well, up to the next character that cannot be shown, and there the
sequence goes on. A character beyond ASCII in the text shown drops the suspended sequence.
-/

namespace GreetingCheck.Text

/-- The control sequence that a character stands in. -/
inductive Sequence
  /-- None. -/
  | none
  /-- One of which only the escape character has been met. -/
  | escape
  /-- A short one, which the next character that is no punctuation mark ends. -/
  | short
  /-- One with parameters, which a letter ends. -/
  | parameters
  /-- A command to the terminal's operating system, which a bell ends. -/
  | command
  /-- The head of a string for a device, with nothing in it yet. -/
  | deviceStart
  /-- The head of a string for a device, with parameters. -/
  | deviceParameters
  /-- The head of a string for a device, with punctuation marks behind its parameters. -/
  | deviceMarks
  /-- A string for a device or an application, which a string terminator ends. -/
  | string
  deriving DecidableEq

namespace Sequence

/-- Whether a character lies between two others. -/
def inRange (low high c : Char) : Bool := low ≤ c && c ≤ high

/-- Whether a character ends a string. The terminator is a single byte, and a byte of that value
inside of any character is taken for it. -/
def terminates (c : Char) : Bool := (Utf8.encode [c]).contains 0x9C

/-- The sequence that the character behind an escape character chooses. -/
def ofSecond (c : Char) : Sequence :=
  if c = '[' then .parameters
  else if c = ']' then .command
  else if c = 'P' then .deviceStart
  else if c = 'X' ∨ c = '^' ∨ c = '_' then .string
  else if inRange '0' '~' c then .none
  else if inRange ' ' '/' c then .short
  else .escape

/-- The sequence behind a character that is not shown. Whatever the sequence, an escape character
begins a new one, and two control characters cancel it. -/
def advance (s : Sequence) (c : Char) : Sequence :=
  if c = '\x1b' then .escape
  else if c = '\x18' ∨ c = '\x1a' then .none
  else
    match s with
    | .none => .none
    | .escape => ofSecond c
    | .short => if inRange '0' '~' c then .none else .short
    | .parameters => if inRange '@' '~' c then .none else .parameters
    | .command => if c = '\x07' then .none else .command
    | .deviceStart =>
      if inRange ' ' '/' c then .deviceMarks
      else if inRange '0' '?' c then .deviceParameters
      else if inRange '@' '~' c then .string
      else .deviceStart
    | .deviceParameters =>
      if inRange ' ' '/' c then .deviceMarks
      else if inRange '<' '~' c then .string
      else .deviceParameters
    | .deviceMarks => if inRange '0' '~' c then .string else .deviceMarks
    | .string => if terminates c then .none else .string

/-- The control characters that are white space. -/
def isLayout (c : Char) : Bool := c = '\t' || c = '\n' || c = '\x0c' || c = '\r'

/-- Whether a character is shown where no sequence keeps it from being. -/
def canShow (c : Char) : Bool := (' ' ≤ c && c ≠ '\x7f') || isLayout c

/-- Whether white space of the control kind suspends a sequence. -/
def isSuspendable : Sequence → Bool
  | .escape | .short | .parameters => true
  | _ => false

/-- Whether a character is shown in a sequence, which may be suspended. -/
def shows (s : Sequence) (suspended : Bool) (c : Char) : Bool :=
  if suspended || s = .none then canShow c else s.isSuspendable && isLayout c

/-- The characters of a text that are shown if the text begins inside a sequence. -/
def visible (s : Sequence) (suspended : Bool) : List Char → List Char
  | [] => []
  | c :: rest =>
    if s.shows suspended c then c :: visible (if c ≤ '\x7f' then s else .none) true rest
    else visible (s.advance c) false rest

end Sequence

/-- A text without anything that controls a terminal. -/
def plain (text : List Char) : List Char := Sequence.none.visible false text

end GreetingCheck.Text
