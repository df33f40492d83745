import Interchain.Amount

/-!
# Fixed-point decimals

An unsigned decimal number with eighteen places, stored as the number of its last units. Moving
the point to the left drops the digits that leave the last place, so the result is never above
the exact quotient.
-/

set_option autoImplicit false

namespace Interchain

/-- The number `atoms / 10 ^ 18`. -/
structure Decimal where
  atoms : Nat
deriving DecidableEq

namespace Decimal

/-- The number of places after the point. -/
def places : Nat := 18

/-- The number of atoms in one. -/
def one : Nat := Numeral.tenPow places

def ofAmount (a : Amount) : Decimal :=
  ⟨a * one⟩

/-- The point moved `n` places to the right: the number times `10 ^ n`. -/
def shiftUp (d : Decimal) (n : Nat) : Decimal :=
  ⟨d.atoms * Numeral.tenPow n⟩

/-- The point moved `n` places to the left, without the digits beyond the last place. -/
def shiftDown (d : Decimal) (n : Nat) : Decimal :=
  ⟨d.atoms / Numeral.tenPow n⟩

/-- The part before the point. -/
def truncate (d : Decimal) : Amount :=
  d.atoms / one

/-- The part after the point, in atoms. -/
def fraction (d : Decimal) : Nat :=
  d.atoms % one

def isInteger (d : Decimal) : Bool :=
  d.fraction == 0

def isZero (d : Decimal) : Bool :=
  d.atoms == 0

/-- All eighteen places are written. -/
instance : ToString Decimal where
  toString d :=
    String.ofList
      (Nat.toDigits 10 d.truncate ++ '.' :: (Nat.toDigits 10 d.fraction).leftpad places '0')

/-- The number with the digits `whole` before the point and the digits `frac` after it. -/
def ofDigits (whole frac : List Char) : Decimal :=
  ⟨Numeral.value whole * one + Numeral.value frac * Numeral.tenPow (places - frac.length)⟩

/-- Digits, and after a point up to eighteen more. The point may be missing or stand last. -/
def parse (s : String) : Except FormatError Decimal :=
  let whole := s.toList.takeWhile (· ≠ '.')
  let frac := (s.toList.dropWhile (· ≠ '.')).drop 1
  if Numeral.isNumeral whole && frac.all Char.isDigit && frac.length ≤ places then
    .ok (ofDigits whole frac)
  else
    .error (.decimal s)

@[simp]
theorem truncate_ofAmount (a : Amount) : (ofAmount a).truncate = a :=
  Nat.mul_div_cancel a (by decide)

end Decimal

end Interchain
