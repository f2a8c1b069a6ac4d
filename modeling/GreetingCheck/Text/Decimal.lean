/-!
# Decimal integers

Integers are written in decimal, without leading zeros, with a minus sign in front of the negative
ones.
-/

namespace GreetingCheck.Text.Decimal

/-- The digits of a natural number. -/
def digits (n : Nat) : List Char := Nat.toDigits 10 n

/-- The number that digits spell; leading zeros are allowed. -/
def value (digits : List Char) : Nat := Nat.ofDigitChars 10 digits 0

@[simp] theorem value_digits (n : Nat) : value (digits n) = n :=
  Nat.ofDigitChars_ten_toDigits

theorem isDigit_of_mem_digits {n : Nat} {c : Char} (h : c ∈ digits n) : c.isDigit :=
  Nat.isDigit_of_mem_toDigits (by decide) (by decide) h

theorem digits_inj {m n : Nat} : digits m = digits n ↔ m = n := by
  constructor
  · intro h
    rw [← value_digits m, h, value_digits]
  · exact congrArg digits

/-- The digits of an integer behind its sign. -/
def write (i : Int) : List Char :=
  if i < 0 then '-' :: digits i.natAbs else digits i.natAbs

/-- The decimal text of an integer. -/
def render (i : Int) : String := .ofList (write i)

/-- Different integers are written differently: no digit is taken for the sign. -/
theorem write_inj {i j : Int} : write i = write j ↔ i = j := by
  have hsign (n : Nat) (rest : List Char) : '-' :: rest ≠ digits n := by
    intro h
    have hdigit : '-'.isDigit := isDigit_of_mem_digits (n := n) (by rw [← h]; exact .head rest)
    exact absurd hdigit (by decide)
  constructor
  · intro h
    unfold write at h
    split at h <;> split at h
    · have hdigits := digits_inj.1 (List.cons.inj h).2
      omega
    · exact absurd h (hsign _ _)
    · exact absurd h.symm (hsign _ _)
    · have hdigits := digits_inj.1 h
      omega
  · exact congrArg write

@[simp] theorem render_inj {i j : Int} : render i = render j ↔ i = j := by
  rw [render, render, String.ofList_inj, write_inj]

end GreetingCheck.Text.Decimal
