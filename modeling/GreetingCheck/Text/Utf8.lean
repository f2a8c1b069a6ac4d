/-!
# UTF-8

Bytes that come from outside need not be text. `pieces` cuts any sequence of bytes into
well-formed characters and maximal malformed sequences: a malformed sequence is a first byte
together with those of the bytes after it that still could have belonged to a character. From the
pieces come both readings: the strict one, which refuses malformed bytes, and the lossy one, which
shows a replacement character for each malformed sequence.
-/

namespace GreetingCheck.Text.Utf8

/-- The bytes of a text. -/
def encode (text : List Char) : List UInt8 := text.flatMap String.utf8EncodeChar

/-! ## Cutting bytes into characters -/

/-- The values that a byte may have at its place in a character. -/
structure Span where
  low : Nat
  high : Nat

/-- Whether a byte lies in a span. -/
def Span.contains (s : Span) (b : UInt8) : Bool := s.low ≤ b.toNat && b.toNat ≤ s.high

/-- The span of the bytes after the first, where the first byte does not narrow it. -/
def anyTail : Span := ⟨0x80, 0xBF⟩

/-- What a first byte says of its character: the high bits that it contributes, and the spans of the
bytes that have to follow. The narrowed spans keep out longer spellings than needed, the surrogates,
and everything above U+10FFFF. -/
def first? (byte : UInt8) : Option (Nat × List Span) :=
  let b := byte.toNat
  if b < 0x80 then some (b, [])
  else if b < 0xC2 then none
  else if b < 0xE0 then some (b % 32, [anyTail])
  else if b = 0xE0 then some (0, [⟨0xA0, 0xBF⟩, anyTail])
  else if b = 0xED then some (13, [⟨0x80, 0x9F⟩, anyTail])
  else if b < 0xF0 then some (b % 16, [anyTail, anyTail])
  else if b = 0xF0 then some (0, [⟨0x90, 0xBF⟩, anyTail, anyTail])
  else if b < 0xF4 then some (b % 8, [anyTail, anyTail, anyTail])
  else if b = 0xF4 then some (4, [⟨0x80, 0x8F⟩, anyTail, anyTail])
  else none

/-- Reads the bytes that have to follow a first byte, each of which contributes six bits. Stops in
front of a byte that does not fit. -/
def readTail (bits : Nat) : List Span → List UInt8 → Option Nat × List UInt8
  | [], bytes => (some bits, bytes)
  | _ :: _, [] => (none, [])
  | span :: spans, b :: bytes =>
    if span.contains b then readTail (bits * 64 + b.toNat % 64) spans bytes else (none, b :: bytes)

theorem length_readTail_le (bits : Nat) (spans : List Span) (bytes : List UInt8) :
    (readTail bits spans bytes).2.length ≤ bytes.length := by
  induction spans generalizing bits bytes with
  | nil => simp [readTail]
  | cons span spans ih =>
    cases bytes with
    | nil => simp [readTail]
    | cons b bytes =>
      unfold readTail
      split
      · exact Nat.le_succ_of_le (ih _ _)
      · simp

/-- Cuts off the first piece: a character, or nothing for a malformed sequence. -/
def readPiece (byte : UInt8) (rest : List UInt8) : Option Char × List UInt8 :=
  match first? byte with
  | none => (none, rest)
  | some (bits, spans) =>
    let (value?, rest) := readTail bits spans rest
    (value?.map Char.ofNat, rest)

theorem length_readPiece_le (byte : UInt8) (rest : List UInt8) :
    (readPiece byte rest).2.length ≤ rest.length := by
  unfold readPiece
  split
  · simp
  · exact length_readTail_le _ _ _

/-- The pieces of a sequence of bytes; `none` stands for a malformed sequence. -/
def pieces : List UInt8 → List (Option Char)
  | [] => []
  | byte :: rest =>
    let piece := readPiece byte rest
    piece.1 :: pieces piece.2
termination_by bytes => bytes.length
decreasing_by exact Nat.lt_succ_of_le (length_readPiece_le byte rest)

/-! ## The two readings -/

/-- The text that bytes spell, if all of them are well formed. -/
def decode? (bytes : List UInt8) : Option (List Char) := (pieces bytes).mapM id

/-- The character shown for a malformed sequence. -/
def replacement : Char := '\uFFFD'

/-- The text that bytes spell, with a replacement character for each malformed sequence. -/
def decodeLossy (bytes : List UInt8) : List Char := (pieces bytes).map (·.getD replacement)

end GreetingCheck.Text.Utf8
