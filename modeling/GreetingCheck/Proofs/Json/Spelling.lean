import GreetingCheck.Json.Value

/-!
# The spellings of JSON

Which texts spell a JSON value, said without reading one: a character inside a string may be
spelled in several ways, a string is spelled character by character, a token by the spelling of its
content, and a value by its tokens with any blanks between them. The readers of `Json` are held
against these relations; what is written in compact form is one spelling among them.
-/

namespace GreetingCheck.Json

/-! ## Strings -/

/-- A hexadecimal digit, in either case, and its value. -/
def SpellsDigit (k : Nat) (c : Char) : Prop :=
  k < 16 ∧ (c = Nat.digitChar k ∨ c = (Nat.digitChar k).toUpper)

/-- Four hexadecimal digits and the number that they make up. -/
inductive SpellsUnit : Nat → List Char → Prop
  | digits {i j k l : Nat} {a b c d : Char} (ha : SpellsDigit i a) (hb : SpellsDigit j b)
      (hc : SpellsDigit k c) (hd : SpellsDigit l d) :
      SpellsUnit (((i * 16 + j) * 16 + k) * 16 + l) [a, b, c, d]

/-- The escapes of one letter, with the characters that they stand for. -/
def letterEscapes : List (Char × Char) :=
  [('"', '"'), ('\\', '\\'), ('/', '/'), ('b', '\x08'), ('f', '\x0c'), ('n', '\n'), ('r', '\r'),
    ('t', '\t')]

/-- The spellings of a character inside a string. -/
inductive SpellsChar : Char → List Char → Prop
  | raw {c : Char} (hspace : ' ' ≤ c) (hquote : c ≠ '"') (hbackslash : c ≠ '\\') :
      SpellsChar c [c]
  | letter {l c : Char} (h : (l, c) ∈ letterEscapes) : SpellsChar c ['\\', l]
  | unit {c : Char} {digits : List Char} (h : SpellsUnit c.toNat digits) :
      SpellsChar c ('\\' :: 'u' :: digits)
  /-- A character beyond the first 65536 is spelled by its two surrogates. -/
  | pair {c : Char} {high low : List Char} (hc : 0x10000 ≤ c.toNat)
      (hhigh : SpellsUnit (0xD800 + (c.toNat - 0x10000) / 0x400) high)
      (hlow : SpellsUnit (0xDC00 + (c.toNat - 0x10000) % 0x400) low) :
      SpellsChar c ('\\' :: 'u' :: high ++ '\\' :: 'u' :: low)

/-- The spellings of a text between its quotation marks. -/
inductive SpellsText : List Char → List Char → Prop
  | nil : SpellsText [] []
  | cons {c : Char} {w text body : List Char} (hc : SpellsChar c w) (h : SpellsText text body) :
      SpellsText (c :: text) (w ++ body)

/-! ## Numbers -/

/-- One or more decimal digits. -/
def IsDigits (digits : List Char) : Prop := digits ≠ [] ∧ ∀ c ∈ digits, c.isDigit

/-- A numeral whose parts are as JSON wants them. -/
structure Numeral.WellFormed (n : Numeral) : Prop where
  whole : IsDigits n.whole
  /-- Zero comes first only if it is the only whole digit. -/
  zero : n.whole.head? = some '0' → n.whole.length = 1
  fraction : ∀ digits, n.fraction = some digits → IsDigits digits
  scale : ∀ s, n.scale = some s → IsDigits s.digits

/-! ## Tokens and values -/

/-- The spellings of a token. A number is spelled as it is kept, however large it is. -/
def SpellsToken : Token → List Char → Prop
  | .number n, w => n.WellFormed ∧ w = n.write
  | .text s, w => ∃ body, SpellsText s.toList body ∧ w = '"' :: body ++ ['"']
  | mark, w => w = mark.write

/-- The spellings of a sequence of tokens: the tokens in their order, with any blanks in front of,
between and behind them. -/
inductive Spells : List Token → List Char → Prop
  | nil : Spells [] []
  | blank {c : Char} {tokens : List Token} {text : List Char} (hc : isBlank c)
      (h : Spells tokens text) : Spells tokens (c :: text)
  | token {t : Token} {tokens : List Token} {w text : List Char} (ht : SpellsToken t w)
      (h : Spells tokens text) : Spells (t :: tokens) (w ++ text)

/-- A text that is one JSON value, up to blanks between its tokens. -/
def SpelledBy (v : Json) (text : String) : Prop := Spells v.tokens text.toList

namespace Spells

theorem append_blanks {tokens : List Token} {text blanks : List Char} (h : Spells tokens text)
    (hblanks : ∀ c ∈ blanks, isBlank c) : Spells tokens (text ++ blanks) := by
  induction h with
  | nil =>
    rw [List.nil_append]
    induction blanks with
    | nil => exact .nil
    | cons c rest ih =>
      exact .blank (hblanks c List.mem_cons_self)
        (ih fun d hd => hblanks d (List.mem_cons_of_mem c hd))
  | blank hc h ih => exact .blank hc ih
  | token ht h ih =>
    rw [List.append_assoc]
    exact .token ht ih

theorem blanks_append {tokens : List Token} {text blanks : List Char} (h : Spells tokens text)
    (hblanks : ∀ c ∈ blanks, isBlank c) : Spells tokens (blanks ++ text) := by
  induction blanks with
  | nil => exact h
  | cons c rest ih =>
    exact .blank (hblanks c List.mem_cons_self)
      (ih fun d hd => hblanks d (List.mem_cons_of_mem c hd))

/-- Tokens that are each spelled as they are written are spelled by their written forms in a row. -/
theorem flatMap_write {tokens : List Token} (h : ∀ t ∈ tokens, SpellsToken t t.write) :
    Spells tokens (tokens.flatMap Token.write) := by
  induction tokens with
  | nil => exact .nil
  | cons t rest ih =>
    rw [List.flatMap_cons]
    exact .token (h t List.mem_cons_self) (ih fun u hu => h u (List.mem_cons_of_mem t hu))

/-- The tokens of a text are each spelled somehow. -/
theorem exists_spellsToken {tokens : List Token} {text : List Char} (h : Spells tokens text)
    {t : Token} (ht : t ∈ tokens) : ∃ w, SpellsToken t w := by
  induction h with
  | nil => cases ht
  | blank hc h ih => exact ih ht
  | token hu h ih =>
    rcases List.mem_cons.1 ht with rfl | ht
    · exact ⟨_, hu⟩
    · exact ih ht

end Spells

/-- The numbers of a spelled value are in form. -/
theorem SpelledBy.wellFormed {v : Json} {text : String} (h : v.SpelledBy text) {n : Numeral}
    (hn : Token.number n ∈ v.tokens) : n.WellFormed := by
  obtain ⟨w, hw⟩ := Spells.exists_spellsToken h hn
  exact hw.1

end GreetingCheck.Json
