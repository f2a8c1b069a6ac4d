import GreetingCheck.Proofs.Json.Range

/-!
# Integers as numerals

Two things about numerals that are written as integers. `Numeral.IsInteger` says which integer such
a numeral stands for, and `toInt?_eq_some_iff` that `Numeral.toInt?` finds it where it fits a
machine word. The numeral of an integer of at most 53 bits is well formed and in range
(`small_ofInt`, `Small.overflows`), so that it is a number that can be written and read.
-/

namespace GreetingCheck.Json.Numeral

open Text

/-! ## The integer that a numeral stands for -/

/-- A numeral that is written as an integer, without a fraction or a power of ten and not as negative
zero, and the integer that it is. -/
def IsInteger (n : Numeral) (i : Int) : Prop :=
  n.fraction = none ∧ n.scale = none ∧ ¬ (n.negative = true ∧ Decimal.value n.whole = 0) ∧
    i = if n.negative then -(Decimal.value n.whole : Int) else Decimal.value n.whole

theorem toInt?_eq_some_iff {n : Numeral} {i : Int} (hlow : -2 ^ 63 ≤ i) (hhigh : i < 2 ^ 64) :
    n.toInt? = some i ↔ n.IsInteger i := by
  obtain ⟨negative, whole, fraction, scale⟩ := n
  unfold toInt? IsInteger
  generalize Decimal.value whole = m
  rcases fraction with _ | fraction
  · rcases scale with _ | scale
    · cases negative with
      | false =>
        by_cases hm : m < Nat.pow 2 64
        · simp only [if_pos hm]
          simp [eq_comm]
        · have hlarge : 2 ^ 64 ≤ m := Nat.not_lt.1 hm
          simp only [if_neg hm]
          simp
          omega
      | true =>
        by_cases hm : 0 < m ∧ m ≤ Nat.pow 2 63
        · have hpos : m ≠ 0 := by omega
          simp only [if_pos hm]
          simp [hpos, eq_comm]
        · have hlarge : m = 0 ∨ 2 ^ 63 < m := by
            rcases Nat.eq_zero_or_pos m with hzero | hpos
            · exact .inl hzero
            · exact .inr (Nat.not_le.1 fun hle => hm ⟨hpos, hle⟩)
          simp only [if_neg hm]
          simp
          omega
    · simp
  · simp

/-! ## The numeral of an integer -/

/-- Only zero is written with a zero in front. -/
private theorem eq_zero_of_head?_digits {n : Nat} (h : (Decimal.digits n).head? = some '0') :
    n = 0 := by
  induction n using Nat.strongRecOn with
  | ind n ih =>
    rw [Decimal.digits, Nat.toDigits_eq_if (by decide)] at h
    split at h
    · rw [List.head?_cons, Option.some.injEq] at h
      exact Nat.digitChar_eq_zero.1 h
    next hn =>
    have hne : Nat.toDigits 10 (n / 10) ≠ [] := Nat.toDigits_ne_nil
    have hhead : (Nat.toDigits 10 (n / 10)).head? = some '0' := by
      cases hdigits : Nat.toDigits 10 (n / 10) with
      | nil => exact absurd hdigits hne
      | cons c digits => simpa [hdigits] using h
    have hzero : n / 10 = 0 := ih (n / 10) (by omega) hhead
    omega

theorem wellFormed_ofInt (i : Int) : (ofInt i).WellFormed where
  whole := ⟨Nat.toDigits_ne_nil, fun _ hc => Decimal.isDigit_of_mem_digits hc⟩
  zero h := by
    have hi : i.natAbs = 0 := eq_zero_of_head?_digits h
    simp [ofInt, Decimal.digits, hi]
  fraction _ h := by simp [ofInt] at h
  scale _ h := by simp [ofInt] at h

theorem isInteger_ofInt (i : Int) : (ofInt i).IsInteger i := by
  refine ⟨rfl, rfl, ?_, ?_⟩
  · simp only [ofInt, Decimal.value_digits, decide_eq_true_eq]
    omega
  · simp only [ofInt, Decimal.value_digits, decide_eq_true_eq]
    split <;> omega

/-! ## Its range -/

/-- A numeral that is written as an integer of at most 53 bits. -/
structure Small (n : Numeral) : Prop where
  wellFormed : n.WellFormed
  fraction : n.fraction = none
  scale : n.scale = none
  value_lt : Decimal.value n.whole < 2 ^ 53

theorem Small.overflows {n : Numeral} (h : n.Small) : n.overflows = false := by
  have hmagnitude : n.magnitude = Decimal.value n.whole := by
    simp [magnitude, h.fraction, h.scale]
  have hlt : (Decimal.value n.whole : ℚ) < 2 ^ 53 := by exact_mod_cast h.value_lt
  have hlarge : (2 : ℚ) ^ 54 ≤ 2 ^ 1024 := pow_le_pow_right₀ (by norm_num) (by norm_num)
  apply overflows_eq_false_of_le h.wellFormed
  rw [hmagnitude]
  generalize (2 : ℚ) ^ 1024 = bound at hlarge ⊢
  linarith

theorem small_ofInt {i : Int} (h : i.natAbs < 2 ^ 53) : (ofInt i).Small where
  wellFormed := wellFormed_ofInt i
  fraction := rfl
  scale := rfl
  value_lt := by
    rw [ofInt, Decimal.value_digits]
    exact h

end GreetingCheck.Json.Numeral
