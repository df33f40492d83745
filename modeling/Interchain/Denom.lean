import Interchain.Text.Validated
import Interchain.Amount

/-!
# Denominations and coins

A denomination names a token on this chain. Tokens of other chains are held under vouchers,
whose denomination is `ibc/` with a hash of the token's path. A coin is an amount of one
denomination.
-/

set_option autoImplicit false

namespace Interchain

namespace Denom

/-- The characters after the first one. -/
def isDenomChar (c : Char) : Bool :=
  c.isAlphanum || "/:._-".toList.contains c

/-- A letter, then letters, digits and a few signs; 2 to 128 characters. -/
def rule (s : String) : Bool :=
  2 ≤ s.length && s.length ≤ 128 && (s.toList.take 1).all Char.isAlpha &&
    (s.toList.drop 1).all isDenomChar

end Denom

/-- A denomination of this chain. -/
abbrev Denom := Validated Denom.rule

namespace Denom

def parse (s : String) : Except FormatError Denom :=
  match Validated.ofString? s with
  | some d => .ok d
  | none => .error (.denom s)

@[simp]
theorem parse_text (d : Denom) : parse d.text = .ok d := by
  simp [parse]

/-- The characters that the denomination of a voucher starts with. -/
def voucherStart : List Char :=
  "ibc/".toList

/-- Whether the denomination is that of a voucher. -/
def isVoucher (d : Denom) : Bool :=
  voucherStart.isPrefixOf d.text.toList

end Denom

/-- An amount of one denomination. -/
structure Coin where
  denom : Denom
  amount : Amount
deriving DecidableEq

namespace Coin

def isZero (c : Coin) : Bool :=
  c.amount == 0

/-- The amount, and right behind it the denomination. -/
instance : ToString Coin where
  toString c := toString c.amount ++ c.denom.text

end Coin

end Interchain
