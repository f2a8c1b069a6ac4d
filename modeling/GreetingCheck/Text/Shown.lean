import GreetingCheck.Text.Hidden

/-!
# Texts shown inside a message

A text that a message talks about is shown in quotation marks, on one line: quotation marks and
backslashes get a backslash in front of them, and a character that cannot be shown appears as an
escape.
-/

namespace GreetingCheck.Text

/-- A character as it is shown. -/
def showChar (c : Char) : List Char :=
  match c with
  | '\x00' => ['\\', '0']
  | '\t' => ['\\', 't']
  | '\n' => ['\\', 'n']
  | '\r' => ['\\', 'r']
  | '"' => ['\\', '"']
  | '\\' => ['\\', '\\']
  | c => if isHidden c then '\\' :: 'u' :: '{' :: Nat.toDigits 16 c.toNat ++ ['}'] else [c]

/-- A text as it is shown. -/
def shown (text : String) : String := .ofList ('"' :: text.toList.flatMap showChar ++ ['"'])

end GreetingCheck.Text
