import GreetingCheck.Json.Numeral
import GreetingCheck.Json.Quotation

/-!
# JSON tokens

A JSON text is a sequence of tokens with blanks between them. `scan` cuts any text into the tokens
at its start and an account of how they end: with the text, or at a flaw. Whether a flaw is blamed
on the flawed token itself depends on what was wanted in its place (`Flaw.blame`): where no number
can stand, it does not matter that a number is cut short.
-/

namespace GreetingCheck.Json

/-- A JSON token. -/
inductive Token
  | openArray
  | closeArray
  | openObject
  | closeObject
  | comma
  | colon
  | null
  | boolean (b : Bool)
  | number (n : Numeral)
  | text (s : String)
  deriving DecidableEq

/-- A token as it is written in compact form. -/
def Token.write : Token → List Char
  | .openArray => ['[']
  | .closeArray => [']']
  | .openObject => ['{']
  | .closeObject => ['}']
  | .comma => [',']
  | .colon => [':']
  | .null => "null".toList
  | .boolean true => "true".toList
  | .boolean false => "false".toList
  | .number n => n.write
  | .text s => Quotation.write s.toList

/-! ## Flaws -/

/-- Something that is no token. -/
structure Flaw where
  /-- Whether it starts as a string does. -/
  inText : Bool
  fault : Fault
  deriving DecidableEq

/-- What may stand at a place of a JSON text. -/
inductive Wanted
  /-- Any value. -/
  | value
  /-- Of all values only a string. -/
  | text
  /-- No value. -/
  | mark
  deriving DecidableEq

/-- What is wrong with a text that has a flaw where something else is wanted. A token that cannot
stand there at all is wrong from its first character on. -/
def Flaw.blame (flaw : Flaw) : Wanted → Fault
  | .value => flaw.fault
  | .text => if flaw.inText then flaw.fault else .malformed
  | .mark => .malformed

/-- How the tokens of a text end. -/
inductive Ending
  /-- The text ends with them. -/
  | complete
  /-- They are followed by a flaw. -/
  | flawed (flaw : Flaw)
  deriving DecidableEq

/-! ## Scanning -/

/-- The blanks that may stand between tokens. -/
def isBlank (c : Char) : Bool := c = ' ' || c = '\t' || c = '\n' || c = '\r'

/-- Reads the letters that have to come next. -/
def readWord : List Char → List Char → Except Fault (List Char)
  | [], rest => .ok rest
  | _ :: _, [] => .error .ended
  | c :: word, d :: rest => if c = d then readWord word rest else .error .malformed

/-- Reads the token that starts with a given character, which is no blank. -/
def Token.read (c : Char) (rest : List Char) : Except Flaw (Token × List Char) :=
  match c with
  | '[' => .ok (.openArray, rest)
  | ']' => .ok (.closeArray, rest)
  | '{' => .ok (.openObject, rest)
  | '}' => .ok (.closeObject, rest)
  | ',' => .ok (.comma, rest)
  | ':' => .ok (.colon, rest)
  | 'n' => word "ull" .null
  | 't' => word "rue" (.boolean true)
  | 'f' => word "alse" (.boolean false)
  | '"' => content
  | c => if c = '-' ∨ c.isDigit then numeral c else .error ⟨false, .malformed⟩
where
  word (letters : String) (token : Token) : Except Flaw (Token × List Char) :=
    match readWord letters.toList rest with
    | .ok rest => .ok (token, rest)
    | .error fault => .error ⟨false, fault⟩
  content : Except Flaw (Token × List Char) :=
    match Quotation.read rest with
    | .ok (content, rest) => .ok (.text (.ofList content), rest)
    | .error fault => .error ⟨true, fault⟩
  numeral (c : Char) : Except Flaw (Token × List Char) :=
    match Numeral.read (c :: rest) with
    | .ok (n, rest) => .ok (.number n, rest)
    | .error fault => .error ⟨false, fault⟩

/-- Whether a token is written in one way only: it is neither a number nor a string. -/
def Token.isFixed : Token → Bool
  | .number _ | .text _ => false
  | _ => true

/-- How a token is read behind its first character. -/
inductive Token.Reads (c : Char) (text : List Char) : Token → List Char → Prop
  | fixed {t : Token} {letters rest : List Char} (ht : t.isFixed = true)
      (hwrite : t.write = c :: letters) (h : readWord letters text = .ok rest) : Reads c text t rest
  | content {content rest : List Char} (hc : c = '"')
      (h : Quotation.read text = .ok (content, rest)) : Reads c text (.text (.ofList content)) rest
  | numeral {n : Numeral} {rest : List Char} (h : Numeral.read (c :: text) = .ok (n, rest)) :
      Reads c text (.number n) rest

theorem Token.reads_of_read {c : Char} {text rest : List Char} {t : Token}
    (h : Token.read c text = .ok (t, rest)) : Token.Reads c text t rest := by
  have hmark {u : Token} (hu : u.isFixed = true) (hwrite : u.write = [c])
      (h : .ok (u, text) = (.ok (t, rest) : Except Flaw _)) : Reads c text t rest := by
    cases h
    exact .fixed hu hwrite rfl
  have hword {letters : String} {u : Token} (hu : u.isFixed = true)
      (hwrite : u.write = c :: letters.toList) (h : read.word text letters u = .ok (t, rest)) :
      Reads c text t rest := by
    unfold read.word at h
    split at h
    · next hread =>
      cases h
      exact .fixed hu hwrite hread
    · cases h
  have hcontent (hc : c = '"') (h : read.content text = .ok (t, rest)) : Reads c text t rest := by
    unfold read.content at h
    split at h
    · next hread =>
      cases h
      exact .content hc hread
    · cases h
  have hnumeral
      (h : (if c = '-' ∨ c.isDigit then read.numeral text c else .error ⟨false, .malformed⟩) =
        .ok (t, rest)) : Reads c text t rest := by
    unfold read.numeral at h
    split at h
    · split at h
      · next hread =>
        cases h
        exact .numeral hread
      · cases h
    · cases h
  -- a first character that belongs to one kind of token only leaves no choice
  unfold Token.read at h
  split at h <;> first
    | exact hmark rfl rfl h
    | exact hword rfl rfl h
    | exact hcontent rfl h
    | exact hnumeral h

theorem length_readWord_le {word text rest : List Char} (h : readWord word text = .ok rest) :
    rest.length ≤ text.length := by
  fun_induction readWord word text with
  | case1 => simp_all
  | case2 => simp at h
  | case3 _ _ _ ih => exact Nat.le_succ_of_le (ih h)
  | case4 => simp at h

theorem Token.length_read_le {c : Char} {text rest : List Char} {token : Token}
    (h : Token.read c text = .ok (token, rest)) : rest.length ≤ text.length := by
  cases Token.reads_of_read h with
  | fixed _ _ hword => exact length_readWord_le hword
  | content _ hread => exact Nat.le_of_lt (Quotation.length_read_lt hread)
  | numeral hread => exact Nat.le_of_lt_succ (Numeral.length_read_lt hread)

/-- The tokens at the start of a text, and how they end. -/
def scan : List Char → List Token × Ending
  | [] => ([], .complete)
  | c :: rest =>
    if isBlank c then scan rest
    else
      match _h : Token.read c rest with
      | .error flaw => ([], .flawed flaw)
      | .ok (token, rest') =>
        let scanned := scan rest'
        (token :: scanned.1, scanned.2)
termination_by text => text.length
decreasing_by
  · exact Nat.lt_succ_self _
  · exact Nat.lt_succ_of_le (Token.length_read_le _h)

end GreetingCheck.Json
