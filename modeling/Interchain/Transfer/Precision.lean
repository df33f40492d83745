import Interchain.Decimal

/-!
# Conversion between precisions

An amount loses `po` decimals on its way out and gets them back on its way in. Both ways scale a
decimal number and drop what is behind the point, so that never more is credited than was taken.
-/

set_option autoImplicit false

namespace Interchain

/-- What becomes of an amount that loses decimals. -/
structure Reduction where
  /-- Taken from the sender, in the precision before the conversion. -/
  deducted : Amount
  /-- Sent on, in the precision of the counterpart. -/
  converted : Amount
deriving DecidableEq

/-- The amount with `po` more decimals. -/
def Amount.restore (a : Amount) (po : Nat) : Amount :=
  ((Decimal.ofAmount a).shiftUp po).truncate

/-- The amount without its last `po` decimals, and what that is worth in the precision before. -/
def Amount.reduce (a : Amount) (po : Nat) : Reduction :=
  let converted := ((Decimal.ofAmount a).shiftDown po).truncate
  { deducted := converted.restore po, converted }

/-- What stays with the sender of `requested` because it is too small to be sent. -/
def Reduction.dust (r : Reduction) (requested : Amount) : Amount :=
  requested - r.deducted

end Interchain
