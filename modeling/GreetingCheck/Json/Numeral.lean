import GreetingCheck.Json.Fault
import GreetingCheck.Text.Decimal

/-!
# JSON numerals

A numeral is kept as it is written: a sign, whole digits without a superfluous leading zero, and
perhaps a fraction and a power of ten. `toInt?` is the integer it stands for, where it is written
as one and fits a machine word; every other numeral stands for a double-precision number, and is
refused if its magnitude is out of range for those (`overflows`).
-/

namespace GreetingCheck.Json

/-- The sign that may be written in front of a power of ten. -/
inductive Sign
  | absent
  | plus
  | minus
  deriving DecidableEq

/-- The power of ten that may follow the digits of a numeral. -/
structure Scale where
  /-- Whether it is introduced by `E` rather than `e`. -/
  capital : Bool
  sign : Sign
  digits : List Char
  deriving DecidableEq

/-- A JSON number as it is written. -/
structure Numeral where
  negative : Bool
  /-- The digits in front of the decimal point. -/
  whole : List Char
  /-- The digits behind the decimal point, if there is one. -/
  fraction : Option (List Char)
  scale : Option Scale
  deriving DecidableEq

/-! ## The magnitude of a numeral -/

/-- The nearest number that has at most 53 significant bits; of two equally near ones, the one whose
last bit is zero. -/
def roundToDouble (n : Nat) : Nat :=
  let unit := Nat.pow 2 (n.log2 + 1 - 53)
  let quotient := n / unit
  let remainder := n % unit
  if unit < 2 * remainder ∨ (2 * remainder = unit ∧ quotient % 2 = 1) then (quotient + 1) * unit
  else quotient * unit

/-- Appends digits to a number while it stays below 2^64: the number, and the digits left over. -/
def accumulate (significand : Nat) : List Char → Nat × List Char
  | [] => (significand, [])
  | digit :: rest =>
    let next := significand * 10 + Text.Decimal.value [digit]
    if next < Nat.pow 2 64 then accumulate next rest else (significand, digit :: rest)

/-- The power of ten that a scale stands for. -/
def Scale.value (s : Scale) : Int :=
  match s.sign with
  | .minus => -(Text.Decimal.value s.digits : Int)
  | _ => Text.Decimal.value s.digits

namespace Numeral

/-- A numeral as a word-sized significand and a power of ten. Whole digits that no longer fit count
only as powers of ten; fraction digits that no longer fit do not count at all. -/
def significand (n : Numeral) : Nat × Int :=
  let (whole, surplus) := accumulate 0 n.whole
  let fraction := n.fraction.getD []
  let (all, unread) := accumulate whole fraction
  let places : Int := surplus.length - (fraction.length - unread.length : Nat)
  (all, places + (n.scale.map Scale.value).getD 0)

/-- Whether the product of the significand and the power of ten, each rounded to double precision,
exceeds every finite double-precision number: those have no more than 1024 bits in front of the
point. -/
def overflows (n : Numeral) : Bool :=
  let (significand, exponent) := n.significand
  if significand = 0 ∨ exponent < 0 then false
  else if 308 < exponent then true
  else
    let product := roundToDouble significand * roundToDouble (Nat.pow 10 exponent.toNat)
    1024 < (roundToDouble product).log2 + 1

/-- The integer that a numeral stands for. A numeral with a fraction or a power of ten stands for
none, and neither does one that fits no machine word of 64 bits, or negative zero. -/
def toInt? (n : Numeral) : Option Int :=
  match n.fraction, n.scale with
  | none, none =>
    let magnitude := Text.Decimal.value n.whole
    if n.negative then
      if 0 < magnitude ∧ magnitude ≤ Nat.pow 2 63 then some (-(magnitude : Int)) else none
    else if magnitude < Nat.pow 2 64 then some magnitude else none
  | _, _ => none

/-- The numeral of an integer. -/
def ofInt (i : Int) : Numeral := ⟨i < 0, Text.Decimal.digits i.natAbs, none, none⟩

/-! ## Writing -/

/-- A sign as it is written. -/
def writeSign : Sign → List Char
  | .absent => []
  | .plus => ['+']
  | .minus => ['-']

/-- A fraction as it is written, with its point. -/
def writeFraction : Option (List Char) → List Char
  | none => []
  | some digits => '.' :: digits

/-- A power of ten as it is written, with its letter. -/
def writeScale : Option Scale → List Char
  | none => []
  | some s => (if s.capital then 'E' else 'e') :: (writeSign s.sign ++ s.digits)

/-- A numeral as it is written. -/
def write (n : Numeral) : List Char :=
  (if n.negative then ['-'] else []) ++ n.whole ++ writeFraction n.fraction ++ writeScale n.scale

/-! ## Reading -/

/-- Reads one or more digits. -/
def readDigits (text : List Char) : Except Fault (List Char × List Char) :=
  let digits := text.takeWhile Char.isDigit
  let rest := text.dropWhile Char.isDigit
  if digits.isEmpty then .error (.before rest) else .ok (digits, rest)

/-- Reads the digits in front of the point, the first of which is zero only if it is
the only one. -/
def readWhole (text : List Char) : Except Fault (List Char × List Char) := do
  let (digits, rest) ← readDigits text
  if digits.head? = some '0' ∧ 1 < digits.length then .error .malformed
  else .ok (digits, rest)

/-- Reads the sign in front of a numeral or of a power of ten. -/
def readSign : List Char → Sign × List Char
  | '+' :: rest => (.plus, rest)
  | '-' :: rest => (.minus, rest)
  | text => (.absent, text)

/-- Reads a fraction, if a point comes next. -/
def readFraction : List Char → Except Fault (Option (List Char) × List Char)
  | '.' :: rest => do
    let (digits, rest) ← readDigits rest
    return (some digits, rest)
  | text => .ok (none, text)

/-- Reads a power of ten, if its letter comes next. -/
def readScale : List Char → Except Fault (Option Scale × List Char)
  | [] => .ok (none, [])
  | letter :: rest =>
    if letter = 'e' ∨ letter = 'E' then do
      let (sign, rest) := readSign rest
      let (digits, rest) ← readDigits rest
      return (some ⟨letter = 'E', sign, digits⟩, rest)
    else .ok (none, letter :: rest)

/-- Reads a numeral: as much of the text as belongs to it, and what is left. -/
def read (text : List Char) : Except Fault (Numeral × List Char) := do
  let negative := text.head? = some '-'
  let (whole, rest) ← readWhole (if negative then text.tail else text)
  let (fraction, rest) ← readFraction rest
  let (scale, rest) ← readScale rest
  let numeral : Numeral := ⟨negative, whole, fraction, scale⟩
  if numeral.overflows then .error .malformed else .ok (numeral, rest)

/-! ## Reading makes progress -/

theorem length_readDigits_lt {text digits rest : List Char}
    (h : readDigits text = .ok (digits, rest)) : rest.length < text.length := by
  dsimp only [readDigits] at h
  split at h
  · simp at h
  · next hne =>
    simp only [Except.ok.injEq, Prod.mk.injEq] at h
    have hsplit := congrArg List.length
      (List.takeWhile_append_dropWhile (p := Char.isDigit) (l := text))
    have hpos : 0 < (text.takeWhile Char.isDigit).length := by
      rw [List.length_pos_iff]; simpa using hne
    rw [List.length_append] at hsplit
    rw [← h.2]
    omega

theorem length_readWhole_lt {text digits rest : List Char}
    (h : readWhole text = .ok (digits, rest)) : rest.length < text.length := by
  obtain ⟨⟨_, _⟩, hread, h⟩ := bind_eq_ok.1 h
  dsimp only at h
  split at h
  · simp at h
  · simp only [Except.ok.injEq, Prod.mk.injEq] at h
    exact h.2 ▸ length_readDigits_lt hread

theorem length_readSign_le (text : List Char) : (readSign text).2.length ≤ text.length := by
  unfold readSign
  split <;> simp

theorem length_readFraction_le {text rest : List Char} {fraction : Option (List Char)}
    (h : readFraction text = .ok (fraction, rest)) : rest.length ≤ text.length := by
  unfold readFraction at h
  split at h
  · obtain ⟨⟨_, _⟩, hread, h⟩ := bind_eq_ok.1 h
    simp only [pure, Except.pure, Except.ok.injEq, Prod.mk.injEq] at h
    have := length_readDigits_lt hread
    rw [← h.2, List.length_cons]
    omega
  · simp only [Except.ok.injEq, Prod.mk.injEq] at h
    exact Nat.le_of_eq (congrArg _ h.2.symm)

theorem length_readScale_le {text rest : List Char} {scale : Option Scale}
    (h : readScale text = .ok (scale, rest)) : rest.length ≤ text.length := by
  unfold readScale at h
  split at h
  · simp only [Except.ok.injEq, Prod.mk.injEq] at h
    simp [← h.2]
  · next letter tail =>
    split at h
    · obtain ⟨⟨_, _⟩, hread, h⟩ := bind_eq_ok.1 h
      simp only [pure, Except.pure, Except.ok.injEq, Prod.mk.injEq] at h
      have hsign := length_readSign_le tail
      have hdigits : _ < (readSign tail).2.length := length_readDigits_lt hread
      rw [← h.2, List.length_cons]
      omega
    · simp only [Except.ok.injEq, Prod.mk.injEq] at h
      exact Nat.le_of_eq (congrArg _ h.2.symm)

/-- A numeral takes at least one character. -/
theorem length_read_lt {text rest : List Char} {n : Numeral} (h : read text = .ok (n, rest)) :
    rest.length < text.length := by
  obtain ⟨⟨_, _⟩, hwhole, h⟩ := bind_eq_ok.1 h
  obtain ⟨⟨_, _⟩, hfraction, h⟩ := bind_eq_ok.1 h
  obtain ⟨⟨_, _⟩, hscale, h⟩ := bind_eq_ok.1 h
  have h₁ := length_readWhole_lt hwhole
  have h₂ := length_readFraction_le hfraction
  have h₃ := length_readScale_le hscale
  have h₀ : (if text.head? = some '-' then text.tail else text).length ≤ text.length := by
    split <;> simp
  dsimp only at h
  split at h
  · simp at h
  · simp only [Except.ok.injEq, Prod.mk.injEq] at h
    rw [← h.2]
    exact Nat.lt_of_le_of_lt (Nat.le_trans h₃ h₂) (Nat.lt_of_lt_of_le h₁ (by simpa using h₀))

end Numeral

end GreetingCheck.Json
