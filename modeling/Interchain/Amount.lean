import Interchain.Numeral
import Interchain.FormatError

/-!
# Token amounts

An amount counts the smallest units of its denomination and has no upper bound. It is written
as a decimal numeral; reading accepts leading zeros.
-/

set_option autoImplicit false

namespace Interchain

/-- A number of smallest units. -/
abbrev Amount := Nat

namespace Amount

/-- The amount that a text of digits stands for. -/
def parse (s : String) : Except FormatError Amount :=
  match Numeral.value? s.toList with
  | some n => .ok n
  | none => .error (.amount s)

@[simp]
theorem parse_toString (a : Amount) : parse (toString a) = .ok a := by
  simp [parse]

/-- The difference, unless `b` is larger. -/
def sub? (a b : Amount) : Option Amount :=
  if b ≤ a then some (a - b) else none

/-- Whether the amount fits in a word of `bits` bits. -/
def fits (bits : Nat) (a : Amount) : Bool :=
  a < 1 <<< bits

end Amount

end Interchain
