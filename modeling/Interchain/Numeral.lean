/-!
# Decimal numerals

A numeral is a non-empty run of ASCII digits, read in base ten; leading zeros are allowed.
`value?_toDigits` says that the digits of a natural number are read as that number, and
`tenPow_add` that zeros behind zeros multiply.
-/

set_option autoImplicit false

namespace Interchain.Numeral

/-- Whether the characters are digits, and at least one of them. -/
def isNumeral (cs : List Char) : Bool :=
  !cs.isEmpty && cs.all Char.isDigit

/-- The value of a run of digits in base ten. -/
def value (cs : List Char) : Nat :=
  Nat.ofDigitChars 10 cs 0

/-- The value of a numeral. -/
def value? (cs : List Char) : Option Nat :=
  if isNumeral cs then some (value cs) else none

/-- The number that is written as a one and `n` zeros. -/
def tenPow (n : Nat) : Nat :=
  Nat.pow 10 n

theorem tenPow_succ (n : Nat) : tenPow (n + 1) = tenPow n * 10 :=
  rfl

theorem tenPow_add (m n : Nat) : tenPow (m + n) = tenPow m * tenPow n := by
  induction n with
  | zero => exact (Nat.mul_one _).symm
  | succ n ih => rw [← Nat.add_assoc, tenPow_succ, ih, tenPow_succ, Nat.mul_assoc]

theorem tenPow_pos (n : Nat) : 0 < tenPow n :=
  Nat.pow_pos (by decide)

theorem isNumeral_toDigits (n : Nat) : isNumeral (Nat.toDigits 10 n) = true := by
  have hne : Nat.toDigits 10 n ≠ [] := Nat.toDigits_ne_nil
  have hall : ∀ c ∈ Nat.toDigits 10 n, c.isDigit = true := fun c hc =>
    Nat.isDigit_of_mem_toDigits (by decide) (by decide) hc
  simpa [isNumeral, hne] using hall

@[simp]
theorem value_toDigits (n : Nat) : value (Nat.toDigits 10 n) = n :=
  Nat.ofDigitChars_ten_toDigits

@[simp]
theorem value?_toDigits (n : Nat) : value? (Nat.toDigits 10 n) = some n := by
  rw [value?, if_pos (isNumeral_toDigits n), value_toDigits]

end Interchain.Numeral
