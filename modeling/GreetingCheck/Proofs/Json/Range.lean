import Mathlib.Tactic.Linarith
import Mathlib.Tactic.Ring
import GreetingCheck.Proofs.Json.Spelling

/-!
# The range of numbers

Which numerals lie beyond double precision, said by their exact magnitude (`OverflowsDouble`), and
how far the readers go along with it. A reader keeps the digits that fit a word, rounds them and
the power of ten, and rounds the product: each of the stages is off by a small factor at most
(`Near`), so that the two notions agree on every numeral whose magnitude is not within a part in
2^51 of 2^1024 (`overflows_iff_overflowsDouble`).
-/

namespace GreetingCheck.Json

namespace Numeral

open Text

/-! ## Exact magnitudes -/

/-- The magnitude that a numeral is written for. -/
def magnitude (n : Numeral) : ℚ :=
  let fraction := n.fraction.getD []
  Decimal.value (n.whole ++ fraction) *
    10 ^ ((n.scale.map Scale.value).getD 0 - (fraction.length : ℤ))

/-- The magnitudes whose nearest double-precision number is infinite: those from halfway between
the greatest finite one, 2^1024 - 2^971, and 2^1024 on. -/
def OverflowsDouble (n : Numeral) : Prop := 2 ^ 1024 - 2 ^ 970 ≤ n.magnitude

/-- The magnitude of a numeral whose power of ten is no smaller than its last digit needs. -/
theorem magnitude_eq {n : Numeral} {m k : ℕ}
    (hvalue : Decimal.value (n.whole ++ n.fraction.getD []) = m)
    (hscale : (n.scale.map Scale.value).getD 0 - ((n.fraction.getD []).length : ℤ) = k) :
    n.magnitude = (m * 10 ^ k : ℕ) := by
  rw [magnitude, hvalue, hscale, zpow_natCast, Nat.cast_mul, Nat.cast_pow, Nat.cast_ofNat]

/-! ## Magnitudes that are near to each other -/

/-- Two magnitudes of which neither exceeds the other by more than a factor. -/
structure Near (factor x y : ℚ) : Prop where
  left : x ≤ factor * y
  right : y ≤ factor * x

namespace Near

variable {a b x y z w : ℚ}

theorem refl (ha : 1 ≤ a) (hx : 0 ≤ x) : Near a x x :=
  ⟨le_mul_of_one_le_left hx ha, le_mul_of_one_le_left hx ha⟩

theorem trans (ha : 0 ≤ a) (hb : 0 ≤ b) (h : Near a x y) (h' : Near b y z) :
    Near (a * b) x z where
  left := calc
    x ≤ a * y := h.left
    _ ≤ a * (b * z) := mul_le_mul_of_nonneg_left h'.left ha
    _ = a * b * z := (mul_assoc a b z).symm
  right := calc
    z ≤ b * y := h'.right
    _ ≤ b * (a * x) := mul_le_mul_of_nonneg_left h.right hb
    _ = a * b * x := by ring

theorem mul_right {c : ℚ} (hc : 0 ≤ c) (h : Near a x y) : Near a (x * c) (y * c) where
  left := (mul_le_mul_of_nonneg_right h.left hc).trans_eq (mul_assoc a y c)
  right := (mul_le_mul_of_nonneg_right h.right hc).trans_eq (mul_assoc a x c)

theorem mul (hx : 0 ≤ x) (hy : 0 ≤ y) (hz : 0 ≤ z) (hw : 0 ≤ w) (h : Near a x y)
    (h' : Near b z w) : Near (a * b) (x * z) (y * w) where
  left := calc
    x * z ≤ (a * y) * (b * w) := mul_le_mul h.left h'.left hz (hx.trans h.left)
    _ = a * b * (y * w) := by ring
  right := calc
    y * w ≤ (a * x) * (b * z) := mul_le_mul h.right h'.right hw (hy.trans h.right)
    _ = a * b * (x * z) := by ring

end Near

/-! ## Rounding -/

/-- Rounding to 53 bits is off by half a unit in the last place at most. -/
theorem roundToDouble_error (n : ℕ) :
    ∃ error, 2 ^ 53 * error ≤ n ∧ roundToDouble n ≤ n + error ∧ n ≤ roundToDouble n + error := by
  rcases hbits : n.log2 + 1 - 53 with _ | k
  · -- with all bits kept nothing remains to be rounded
    refine ⟨0, Nat.zero_le _, ?_⟩
    simp [roundToDouble, hbits, Nat.mod_one]
  · refine ⟨2 ^ k, ?_, ?_⟩
    · have hne : n ≠ 0 := by
        rintro rfl
        simp at hbits
      calc 2 ^ 53 * 2 ^ k = 2 ^ n.log2 := by rw [← Nat.pow_add]; congr 1; omega
        _ ≤ n := Nat.log2_self_le hne
    · have hunit : (2 : ℕ).pow (n.log2 + 1 - 53) = 2 * 2 ^ k := by
        rw [hbits, Nat.pow_eq, Nat.pow_succ, Nat.mul_comm]
      have hpos : 0 < 2 ^ k := Nat.two_pow_pos k
      have hsplit := Nat.div_add_mod n (2 * 2 ^ k)
      have hlt := Nat.mod_lt n (Nat.mul_pos two_pos hpos)
      simp only [roundToDouble, hunit]
      generalize 2 ^ k = half at *
      rw [Nat.mul_comm] at hsplit
      split
      · rw [Nat.add_mul]
        omega
      · omega

/-- The factor by which a number and its nearest double-precision number may differ. -/
def roundingFactor : ℚ := 2 ^ 53 / (2 ^ 53 - 1)

theorem near_roundToDouble (n : ℕ) : Near roundingFactor n (roundToDouble n) := by
  obtain ⟨error, herror, hle, hge⟩ := roundToDouble_error n
  have herror : (2 : ℚ) ^ 53 * error ≤ n := by exact_mod_cast herror
  have hle : (roundToDouble n : ℚ) ≤ n + error := by exact_mod_cast hle
  have hge : (n : ℚ) ≤ roundToDouble n + error := by exact_mod_cast hge
  constructor
  · rw [roundingFactor, div_mul_eq_mul_div, le_div_iff₀ (by norm_num)]
    linarith
  · rw [roundingFactor, div_mul_eq_mul_div, le_div_iff₀ (by norm_num)]
    linarith

/-! ## Digits that no longer fit -/

theorem value_append (digits more : List Char) :
    Decimal.value (digits ++ more) =
      Decimal.value digits * 10 ^ more.length + Decimal.value more := by
  rw [Decimal.value, Nat.ofDigitChars_append, Nat.ofDigitChars_eq_ofDigitChars_zero, Nat.mul_comm]
  rfl

theorem value_singleton_lt {c : Char} (h : c.isDigit) : Decimal.value [c] < 10 := by
  rw [Char.isDigit, Bool.and_eq_true, decide_eq_true_eq, decide_eq_true_eq] at h
  have hle : c.toNat ≤ 57 := h.2
  have hvalue : Decimal.value [c] = c.toNat - 48 := by
    simp [Decimal.value, Nat.ofDigitChars_cons]
  omega

theorem value_lt {digits : List Char} (h : ∀ c ∈ digits, c.isDigit) :
    Decimal.value digits < 10 ^ digits.length := by
  induction digits with
  | nil => decide
  | cons c digits ih =>
    obtain ⟨hc, hdigits⟩ := List.forall_mem_cons.1 h
    have hfirst := Nat.le_of_lt_succ (value_singleton_lt hc)
    have hrest := ih hdigits
    have hmul := Nat.mul_le_mul_right (10 ^ digits.length) hfirst
    rw [← List.singleton_append, value_append, List.length_append, List.length_singleton,
      Nat.pow_add, Nat.pow_one]
    omega

/-- Digits are appended until one no longer fits; by then the number fills the word but for the
last digit. -/
theorem accumulate_spec {digits : List Char} (hdigits : ∀ c ∈ digits, c.isDigit) {s : ℕ}
    (hs : s < 2 ^ 64) :
    ∃ used rest, digits = used ++ rest ∧
      accumulate s digits = (s * 10 ^ used.length + Decimal.value used, rest) ∧
      s * 10 ^ used.length + Decimal.value used < 2 ^ 64 ∧
      (rest ≠ [] → 2 ^ 60 ≤ s * 10 ^ used.length + Decimal.value used) := by
  induction digits generalizing s with
  | nil =>
    refine ⟨[], [], rfl, ?_, ?_, fun h => absurd rfl h⟩
    · simp [accumulate, Decimal.value]
    · simpa [Decimal.value] using hs
  | cons c digits ih =>
    obtain ⟨hc, hdigits⟩ := List.forall_mem_cons.1 hdigits
    by_cases hfits : s * 10 + Decimal.value [c] < 2 ^ 64
    · obtain ⟨used, rest, rfl, heq, hlt, hfull⟩ := ih hdigits hfits
      have hvalue : s * 10 ^ (c :: used).length + Decimal.value (c :: used) =
          (s * 10 + Decimal.value [c]) * 10 ^ used.length + Decimal.value used := by
        rw [← List.singleton_append, value_append, List.length_append, Nat.pow_add]
        simp only [List.length_singleton]
        ring
      refine ⟨c :: used, rest, rfl, ?_, hvalue ▸ hlt, hvalue ▸ hfull⟩
      rw [accumulate, if_pos (show _ < Nat.pow 2 64 from hfits), heq, hvalue]
    · have hnone : s * 10 ^ ([] : List Char).length + Decimal.value [] = s := by
        simp [Decimal.value]
      have hlast := value_singleton_lt hc
      refine ⟨[], c :: digits, rfl, ?_, hnone.trans_lt hs, fun _ => by omega⟩
      rw [accumulate, if_neg (show ¬ _ < Nat.pow 2 64 from hfits), hnone]

/-- The factor by which digits that no longer fit a word may change a number. -/
def cuttingFactor : ℚ := 1 + 1 / 2 ^ 60

/-- Numbers with the same leading digits are near to each other if those fill a word. -/
theorem near_of_lead {lead unit a b : ℕ} (hlead : 2 ^ 60 ≤ lead) (ha : a < unit) (hb : b < unit) :
    Near cuttingFactor (lead * unit + a : ℕ) (lead * unit + b : ℕ) := by
  have hunit : 2 ^ 60 * unit ≤ lead * unit := Nat.mul_le_mul_right unit hlead
  have hbound {a : ℕ} (b : ℕ) (ha : a < unit) :
      ((lead * unit + a : ℕ) : ℚ) ≤ cuttingFactor * (lead * unit + b : ℕ) := by
    have hsum : 2 ^ 60 * (lead * unit + a) ≤ (2 ^ 60 + 1) * (lead * unit + b) := by omega
    have hsum : (2 : ℚ) ^ 60 * (lead * unit + a : ℕ) ≤ (2 ^ 60 + 1) * (lead * unit + b : ℕ) := by
      exact_mod_cast hsum
    rw [cuttingFactor]
    linarith
  exact ⟨hbound b ha, hbound a hb⟩

/-- The digits of a numeral that count are near to all of them, with a zero for each of the
others. -/
theorem near_significand {n : Numeral} (hn : n.WellFormed) :
    n.significand.1 < 2 ^ 64 ∧ ∃ dropped : ℕ,
      n.significand.2 = dropped - ((n.fraction.getD []).length : ℤ) +
        (n.scale.map Scale.value).getD 0 ∧
      Near cuttingFactor (Decimal.value (n.whole ++ n.fraction.getD []) : ℕ)
        (n.significand.1 * 10 ^ dropped : ℕ) := by
  have hfraction : ∀ c ∈ n.fraction.getD [], c.isDigit := by
    cases hcase : n.fraction with
    | none => simp
    | some digits => exact (hn.fraction digits hcase).2
  obtain ⟨used, rest, hwhole, heq, hlt, hfull⟩ := accumulate_spec hn.whole.2 (Nat.two_pow_pos 64)
  rw [Nat.zero_mul, Nat.zero_add] at heq hlt hfull
  obtain ⟨used', rest', hfraction', heq', hlt', hfull'⟩ := accumulate_spec hfraction hlt
  have hlength : (n.fraction.getD []).length = used'.length + rest'.length := by
    rw [hfraction', List.length_append]
  have hsignificand : n.significand =
      (Decimal.value used * 10 ^ used'.length + Decimal.value used',
        ((rest.length + rest'.length : ℕ) : ℤ) - ((n.fraction.getD []).length : ℤ) +
          (n.scale.map Scale.value).getD 0) := by
    simp only [significand, heq, heq', hlength]
    congr 2
    omega
  rw [hsignificand]
  refine ⟨hlt', rest.length + rest'.length, rfl, ?_⟩
  have hdigits : ∀ c ∈ n.whole ++ n.fraction.getD [], c.isDigit :=
    List.forall_mem_append.2 ⟨hn.whole.2, hfraction⟩
  rw [hwhole, hfraction'] at hdigits ⊢
  simp only [List.append_assoc, List.forall_mem_append] at hdigits ⊢
  obtain ⟨-, hrest, hused', hrest'⟩ := hdigits
  have hpos (k : ℕ) : 0 < 10 ^ k := Nat.pow_pos (by decide)
  by_cases hwhole : rest = []
  · -- all of the whole digits count, so that the lead is made up of all digits that do
    subst hwhole
    rw [List.nil_append, ← List.append_assoc, value_append, value_append used used',
      List.length_nil, Nat.zero_add, ← Nat.add_zero (_ * 10 ^ rest'.length)]
    by_cases hfraction : rest' = []
    · subst hfraction
      exact .refl (by norm_num [cuttingFactor]) (Nat.cast_nonneg _)
    · exact near_of_lead (hfull' hfraction) (value_lt hrest') (hpos _)
  · -- the fraction comes behind whole digits that do not count, and is as small as they are
    have hlast : Decimal.value used' * 10 ^ (rest.length + rest'.length) <
        10 ^ (rest.length + (used'.length + rest'.length)) := by
      rw [Nat.add_left_comm, Nat.pow_add 10 used'.length]
      exact Nat.mul_lt_mul_of_pos_right (value_lt hused') (hpos _)
    have htail : Decimal.value (rest ++ (used' ++ rest')) <
        10 ^ (rest.length + (used'.length + rest'.length)) := by
      have hall := value_lt (List.forall_mem_append.2
        ⟨hrest, List.forall_mem_append.2 ⟨hused', hrest'⟩⟩)
      simpa only [List.length_append] using hall
    have hsum : (Decimal.value used * 10 ^ used'.length + Decimal.value used') *
        10 ^ (rest.length + rest'.length) =
          Decimal.value used * 10 ^ (rest.length + (used'.length + rest'.length)) +
            Decimal.value used' * 10 ^ (rest.length + rest'.length) := by
      rw [Nat.add_left_comm rest.length, Nat.pow_add 10 used'.length, Nat.add_mul, Nat.mul_assoc]
    rw [value_append, hsum]
    simp only [List.length_append]
    exact near_of_lead (hfull hwhole) htail hlast

/-! ## What a numeral is taken for -/

/-- The number that a numeral is taken for before it is rounded. -/
def taken (n : Numeral) : ℚ := n.significand.1 * 10 ^ n.significand.2

theorem near_taken {n : Numeral} (hn : n.WellFormed) :
    Near cuttingFactor n.magnitude n.taken := by
  obtain ⟨-, dropped, hexponent, hnear⟩ := near_significand hn
  have hten : (10 : ℚ) ≠ 0 := by norm_num
  have hscaled := hnear.mul_right (c := 10 ^ ((n.scale.map Scale.value).getD 0 -
    ((n.fraction.getD []).length : ℤ))) (zpow_nonneg (by norm_num) _)
  have htaken : n.taken = ((n.significand.1 * 10 ^ dropped : ℕ) : ℚ) *
      10 ^ ((n.scale.map Scale.value).getD 0 - ((n.fraction.getD []).length : ℤ)) := by
    rw [taken, hexponent, sub_add_eq_add_sub, add_sub_assoc, zpow_add₀ hten, zpow_natCast,
      ← mul_assoc, Nat.cast_mul, Nat.cast_pow, Nat.cast_ofNat]
  rw [htaken]
  exact hscaled

/-- What a reader makes of a numeral in double precision, without a bound on the exponent. -/
def doubled (n : Numeral) : ℕ :=
  roundToDouble (roundToDouble n.significand.1 * roundToDouble (Nat.pow 10 n.significand.2.toNat))

theorem near_doubled {n : Numeral} (h : 0 ≤ n.significand.2) :
    Near (roundingFactor * roundingFactor * roundingFactor) n.taken n.doubled := by
  have hfactor : 0 ≤ roundingFactor := by norm_num [roundingFactor]
  have htaken : n.taken = (n.significand.1 : ℚ) * (Nat.pow 10 n.significand.2.toNat : ℕ) := by
    rw [taken, Nat.pow_eq, Nat.cast_pow, Nat.cast_ofNat, ← zpow_natCast, Int.toNat_of_nonneg h]
  have hproduct := Near.mul (Nat.cast_nonneg _) (Nat.cast_nonneg _) (Nat.cast_nonneg _)
    (Nat.cast_nonneg _) (near_roundToDouble n.significand.1)
    (near_roundToDouble (Nat.pow 10 n.significand.2.toNat))
  rw [← htaken, ← Nat.cast_mul] at hproduct
  exact hproduct.trans (mul_nonneg hfactor hfactor) hfactor (near_roundToDouble _)

/-- A number has more bits than a power of two has zeros if it reaches that power. -/
private theorem lt_log2_iff {k : ℕ} (hk : 0 < k) (m : ℕ) : k < m.log2 + 1 ↔ (2 : ℚ) ^ k ≤ m := by
  rw [Nat.lt_succ_iff]
  by_cases hm : m = 0
  · subst hm
    simp [hk.ne']
  · exact_mod_cast Nat.le_log2 hm

theorem overflows_iff {n : Numeral} :
    n.overflows = true ↔ n.significand.1 ≠ 0 ∧ 0 ≤ n.significand.2 ∧
      (308 < n.significand.2 ∨ (2 : ℚ) ^ 1024 ≤ n.doubled) := by
  rw [← lt_log2_iff (by decide)]
  unfold overflows doubled
  obtain ⟨s, e⟩ := n.significand
  dsimp only
  split
  · next h =>
    constructor
    · intro hfalse
      cases hfalse
    · intro hrange
      omega
  · next h =>
    rw [not_or, not_lt] at h
    split
    · next hlarge => exact ⟨fun _ => ⟨h.1, h.2, .inl hlarge⟩, fun _ => rfl⟩
    · next hsmall =>
      rw [decide_eq_true_eq]
      exact ⟨fun hbits => ⟨h.1, h.2, .inr hbits⟩, fun hrange => hrange.2.2.resolve_left hsmall⟩

/-! ## The two notions of range -/

/-- The factor by which what a reader makes of a numeral may differ from its magnitude. -/
def readingFactor : ℚ := cuttingFactor * (roundingFactor * roundingFactor * roundingFactor)

theorem near_reading {n : Numeral} (hn : n.WellFormed) (h : 0 ≤ n.significand.2) :
    Near readingFactor n.magnitude n.doubled :=
  (near_taken hn).trans (by norm_num [cuttingFactor]) (by norm_num [roundingFactor])
    (near_doubled h)

/-- A significand without a positive power of ten is far from the bound. -/
private theorem magnitude_lt_of_small {n : Numeral} (hn : n.WellFormed)
    (h : n.significand.1 = 0 ∨ n.significand.2 < 0) : n.magnitude < 2 ^ 65 := by
  have hword : (n.significand.1 : ℚ) < 2 ^ 64 := by exact_mod_cast (near_significand hn).1
  have htaken : n.taken ≤ n.significand.1 := by
    rcases h with hzero | hnegative
    · rw [taken, hzero, Nat.cast_zero, zero_mul]
    · have hpower : (10 : ℚ) ^ n.significand.2 ≤ 1 := zpow_le_one_of_nonpos₀ (by norm_num)
        hnegative.le
      exact mul_le_of_le_one_right (Nat.cast_nonneg _) hpower
  have hnear := (near_taken hn).left
  rw [cuttingFactor] at hnear
  linarith

theorem overflows_of_le {n : Numeral} (hn : n.WellFormed)
    (h : 2 ^ 1024 * (1 + 1 / 2 ^ 51) ≤ n.magnitude) : n.overflows = true := by
  have hlarge : (2 : ℚ) ^ 65 ≤ 2 ^ 1024 := pow_le_pow_right₀ (by norm_num) (by norm_num)
  have hfactor : readingFactor ≤ 1 + 1 / 2 ^ 51 := by
    norm_num [readingFactor, cuttingFactor, roundingFactor]
  rw [overflows_iff]
  generalize (2 : ℚ) ^ 1024 = bound at h hlarge ⊢
  have hsmall : ¬ (n.significand.1 = 0 ∨ n.significand.2 < 0) := by
    intro hsmall
    have := magnitude_lt_of_small hn hsmall
    linarith
  rw [not_or, not_lt] at hsmall
  refine ⟨hsmall.1, hsmall.2, .inr ?_⟩
  have hnear := (near_reading hn hsmall.2).left
  have hdoubled : readingFactor * n.doubled ≤ (1 + 1 / 2 ^ 51) * n.doubled :=
    mul_le_mul_of_nonneg_right hfactor (Nat.cast_nonneg _)
  linarith

/-- What a small factor makes of a magnitude below the bound stays below it. -/
private theorem lt_of_near {factor bound m x : ℚ} (hbound : 0 < bound) (hpos : 0 ≤ factor)
    (hfactor : factor * (1 - 1 / 2 ^ 51) < 1) (hm : m ≤ bound * (1 - 1 / 2 ^ 51))
    (h : Near factor m x) : x < bound := calc
  x ≤ factor * m := h.right
  _ ≤ factor * (bound * (1 - 1 / 2 ^ 51)) := mul_le_mul_of_nonneg_left hm hpos
  _ = bound * (factor * (1 - 1 / 2 ^ 51)) := by ring
  _ < bound * 1 := mul_lt_mul_of_pos_left hfactor hbound
  _ = bound := mul_one bound

theorem overflows_eq_false_of_le {n : Numeral} (hn : n.WellFormed)
    (h : n.magnitude ≤ 2 ^ 1024 * (1 - 1 / 2 ^ 51)) : n.overflows = false := by
  have hpos : (0 : ℚ) < 2 ^ 1024 := pow_pos (by norm_num) _
  have hten : (2 : ℚ) ^ 1024 < 10 ^ 309 := by
    have hnat : 2 ^ 1024 < 10 ^ 309 := by decide +kernel
    exact_mod_cast hnat
  rw [Bool.eq_false_iff, ne_eq, overflows_iff]
  generalize (2 : ℚ) ^ 1024 = bound at h hpos hten ⊢
  rintro ⟨hne, hexponent, hlarge | hlarge⟩
  · have htaken : n.taken < bound := lt_of_near hpos (by norm_num [cuttingFactor])
      (by norm_num [cuttingFactor]) h (near_taken hn)
    have hpower : (10 : ℚ) ^ 309 ≤ 10 ^ n.significand.2 := by
      rw [← zpow_natCast]
      exact zpow_le_zpow_right₀ (by norm_num) (by exact_mod_cast hlarge)
    have hone : (1 : ℚ) ≤ n.significand.1 := by exact_mod_cast Nat.one_le_iff_ne_zero.2 hne
    have hle : (10 : ℚ) ^ n.significand.2 ≤ n.taken :=
      le_mul_of_one_le_left (zpow_nonneg (by norm_num) _) hone
    exact absurd (hpower.trans hle) (not_le.2 (htaken.trans hten))
  · have hdoubled : (n.doubled : ℚ) < bound := lt_of_near hpos
      (by norm_num [readingFactor, cuttingFactor, roundingFactor])
      (by norm_num [readingFactor, cuttingFactor, roundingFactor]) h (near_reading hn hexponent)
    exact absurd hlarge (not_le.2 hdoubled)

/-- A numeral that is not within a part in 2^51 of 2^1024 is out of range for a reader exactly if
it is for double precision. -/
theorem overflows_iff_overflowsDouble {n : Numeral} (hn : n.WellFormed)
    (h : n.magnitude ≤ 2 ^ 1024 * (1 - 1 / 2 ^ 51) ∨ 2 ^ 1024 * (1 + 1 / 2 ^ 51) ≤ n.magnitude) :
    n.overflows = true ↔ n.OverflowsDouble := by
  have hhalf : (2 : ℚ) ^ 1024 = 2 ^ 970 * 2 ^ 54 := pow_add 2 970 54
  have hpos : (0 : ℚ) < 2 ^ 970 := pow_pos (by norm_num) _
  rcases h with h | h
  · have hnot : ¬ n.OverflowsDouble := by
      rw [OverflowsDouble, hhalf, not_le]
      rw [hhalf] at h
      clear hhalf
      generalize (2 : ℚ) ^ 970 = half at *
      linarith
    rw [overflows_eq_false_of_le hn h]
    exact ⟨fun hfalse => (by cases hfalse), fun hover => absurd hover hnot⟩
  · have hover : n.OverflowsDouble := by
      rw [OverflowsDouble, hhalf]
      rw [hhalf] at h
      clear hhalf
      generalize (2 : ℚ) ^ 970 = half at *
      linarith
    exact ⟨fun _ => hover, fun _ => overflows_of_le hn h⟩

end Numeral

/-! ## The numbers of a value -/

/-- A value of which the readers take every number. -/
def InRange (v : Json) : Prop := ∀ n, Token.number n ∈ v.tokens → n.overflows = false

/-- A value of which no number lies beyond double precision. -/
def FitsDouble (v : Json) : Prop := ∀ n, Token.number n ∈ v.tokens → ¬ n.OverflowsDouble

end GreetingCheck.Json
