import GreetingCheck.Json.Fault
import GreetingCheck.Text.Utf8

/-!
# JSON strings

A text in quotation marks. A quotation mark, a backslash and the characters below the space cannot
stand in it as they are and are written as escapes; any other character may be written as an
escape, too. Characters beyond the first 65536 are escaped as a pair of surrogates, and a
surrogate without its partner is no text.
-/

namespace GreetingCheck.Json.Quotation

/-! ## Writing -/

/-- A character as it is written: raw where that is possible, else by its escape of one letter if it
has one, else by its number. -/
def writeChar : Char → List Char
  | '"' => ['\\', '"']
  | '\\' => ['\\', '\\']
  | '\x08' => ['\\', 'b']
  | '\x0c' => ['\\', 'f']
  | '\n' => ['\\', 'n']
  | '\r' => ['\\', 'r']
  | '\t' => ['\\', 't']
  | c =>
    if c < ' ' then
      ['\\', 'u', '0', '0', Nat.digitChar (c.toNat / 16), Nat.digitChar (c.toNat % 16)]
    else [c]

/-- A text in quotation marks. -/
def write (text : List Char) : List Char := '"' :: text.flatMap writeChar ++ ['"']

/-! ## Escapes -/

/-- The character that an escape of one letter stands for. -/
def ofLetter? : Char → Option Char
  | '"' => some '"'
  | '\\' => some '\\'
  | '/' => some '/'
  | 'b' => some '\x08'
  | 'f' => some '\x0c'
  | 'n' => some '\n'
  | 'r' => some '\r'
  | 't' => some '\t'
  | _ => none

/-- The value of a hexadecimal digit in either case. -/
def hexDigit? (c : Char) : Option Nat :=
  if '0' ≤ c ∧ c ≤ '9' then some (c.toNat - '0'.toNat)
  else if 'a' ≤ c ∧ c ≤ 'f' then some (c.toNat - 'a'.toNat + 10)
  else if 'A' ≤ c ∧ c ≤ 'F' then some (c.toNat - 'A'.toNat + 10)
  else none

/-- Reads the four hexadecimal digits of an escape. Whether a text is too short for them is a
matter of its bytes. -/
def readUnit : List Char → Except Fault (Nat × List Char)
  | a :: b :: c :: d :: rest =>
    match hexDigit? a, hexDigit? b, hexDigit? c, hexDigit? d with
    | some a, some b, some c, some d => .ok (((a * 16 + b) * 16 + c) * 16 + d, rest)
    | _, _, _, _ => .error .malformed
  | text => .error (if (Text.Utf8.encode text).length < 4 then .ended else .malformed)

/-- Whether a number is the first half of a surrogate pair. -/
def isHighSurrogate (unit : Nat) : Bool := 0xD800 ≤ unit && unit ≤ 0xDBFF

/-- Whether a number is the second half of a surrogate pair. -/
def isLowSurrogate (unit : Nat) : Bool := 0xDC00 ≤ unit && unit ≤ 0xDFFF

/-- The character that a pair of surrogates stands for. -/
def ofSurrogates (high low : Nat) : Char :=
  .ofNat (0x10000 + (high - 0xD800) * 0x400 + (low - 0xDC00))

/-- Reads the second half of a surrogate pair, which has to follow the first at once. -/
def readLowSurrogate : List Char → Except Fault (Nat × List Char)
  | '\\' :: 'u' :: rest => do
    let (unit, rest) ← readUnit rest
    if isLowSurrogate unit then .ok (unit, rest) else .error .malformed
  | ['\\'] => .error .ended
  | text => .error (.before text)

/-- Reads an escape after its backslash. -/
def readEscape : List Char → Except Fault (Char × List Char)
  | [] => .error .ended
  | letter :: rest =>
    if letter = 'u' then do
      let (unit, rest) ← readUnit rest
      if isLowSurrogate unit then .error .malformed
      else if isHighSurrogate unit then do
        let (low, rest) ← readLowSurrogate rest
        return (ofSurrogates unit low, rest)
      else .ok (.ofNat unit, rest)
    else
      match ofLetter? letter with
      | some c => .ok (c, rest)
      | none => .error .malformed

theorem length_readUnit_lt {text rest : List Char} {unit : Nat}
    (h : readUnit text = .ok (unit, rest)) : rest.length < text.length := by
  unfold readUnit at h
  split at h
  · split at h
    · simp only [Except.ok.injEq, Prod.mk.injEq] at h
      simp only [← h.2, List.length_cons]
      omega
    · simp at h
  · simp at h

theorem length_readLowSurrogate_lt {text rest : List Char} {unit : Nat}
    (h : readLowSurrogate text = .ok (unit, rest)) : rest.length < text.length := by
  unfold readLowSurrogate at h
  split at h
  · obtain ⟨⟨_, _⟩, hunit, h⟩ := bind_eq_ok.1 h
    dsimp only at h
    split at h
    · simp only [Except.ok.injEq, Prod.mk.injEq] at h
      have := length_readUnit_lt hunit
      simp only [← h.2, List.length_cons]
      omega
    · simp at h
  · simp at h
  · simp at h

theorem length_readEscape_lt {text rest : List Char} {c : Char}
    (h : readEscape text = .ok (c, rest)) : rest.length < text.length := by
  unfold readEscape at h
  split at h
  · simp at h
  · split at h
    · obtain ⟨⟨_, _⟩, hunit, h⟩ := bind_eq_ok.1 h
      have hlt := length_readUnit_lt hunit
      dsimp only at h
      split at h
      · simp at h
      · split at h
        · obtain ⟨⟨_, _⟩, hlow, h⟩ := bind_eq_ok.1 h
          have := length_readLowSurrogate_lt hlow
          simp only [pure, Except.pure, Except.ok.injEq, Prod.mk.injEq] at h
          simp only [← h.2, List.length_cons]
          omega
        · simp only [Except.ok.injEq, Prod.mk.injEq] at h
          simp only [← h.2, List.length_cons]
          omega
    · split at h
      · simp only [Except.ok.injEq, Prod.mk.injEq] at h
        simp [← h.2]
      · simp at h

/-! ## Reading -/

/-- Reads a text after its opening quotation mark up to its closing one: the text, and what is left
behind it. -/
def read : List Char → Except Fault (List Char × List Char)
  | [] => .error .ended
  | c :: rest =>
    if c = '"' then .ok ([], rest)
    else if c = '\\' then
      match _h : readEscape rest with
      | .error fault => .error fault
      | .ok (d, rest') =>
        match read rest' with
        | .error fault => .error fault
        | .ok (text, rest'') => .ok (d :: text, rest'')
    else if c < ' ' then .error .malformed
    else
      match read rest with
      | .error fault => .error fault
      | .ok (text, rest') => .ok (c :: text, rest')
termination_by text => text.length
decreasing_by
  · exact Nat.lt_succ_of_lt (length_readEscape_lt _h)
  · exact Nat.lt_succ_self _

theorem length_read_lt {text content rest : List Char}
    (h : read text = .ok (content, rest)) : rest.length < text.length := by
  fun_induction read text generalizing content with
  | case1 => simp at h
  | case2 => simp_all
  | case3 => simp at h
  | case4 => simp at h
  | case5 _ _ _ hescape _ _ hread _ ih =>
    obtain ⟨_, rfl⟩ : _ ∧ _ := by simpa using h
    have := ih hread
    have := length_readEscape_lt hescape
    simp only [List.length_cons]
    omega
  | case6 => simp at h
  | case7 => simp at h
  | case8 _ _ _ _ _ _ _ hread ih =>
    obtain ⟨_, rfl⟩ : _ ∧ _ := by simpa using h
    exact Nat.lt_succ_of_lt (ih hread)

end GreetingCheck.Json.Quotation
