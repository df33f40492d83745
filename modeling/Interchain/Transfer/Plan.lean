import Interchain.Registry.Basic
import Interchain.Transfer.Action
import Interchain.Transfer.Precision

/-!
# Conversion of counterparts back into their units

A counterpart that this chain holds, because it came in from another chain or was refunded, is
turned back into the unit it stands for: it goes to the module's account and is burned there, and
the module releases what it kept of the unit. A plan says which unit and how many decimals.
-/

set_option autoImplicit false

namespace Interchain

/-- How a counterpart maps onto its unit. -/
structure Plan where
  /-- The lower-precision denomination that is sent. -/
  transport : Denom
  /-- The higher-precision denomination that it stands for. -/
  unit : Denom
  /-- The number of decimals between them. -/
  po : Nat
deriving DecidableEq

/-- The coins that a conversion destroyed and gave out. -/
structure Exchange where
  burned : Coin
  released : Coin
deriving DecidableEq

namespace Plan

/-- The plan for a denomination that names a unit, if the unit names it back as its counterpart
and has more decimals. -/
def resolve (r : Registry) (denom : Denom) : Option Plan :=
  let transport := r.entry denom.text
  if transport.isEmpty || !transport.hasUnit then
    none
  else
    let unit := r.entry transport.unit
    if unit.isEmpty || unit.counterparty ≠ transport.denom ||
        unit.decimals ≤ transport.decimals then
      none
    else
      match Denom.parse unit.denom with
      | .ok unitDenom =>
          some {
            transport := denom
            unit := unitDenom
            po := unit.decimals.toNat - transport.decimals.toNat }
      | .error _ => none

/-- The coins that change hands for an amount of the counterpart. -/
def exchange (p : Plan) (a : Amount) : Exchange where
  burned := ⟨p.transport, a⟩
  released := ⟨p.unit, a.restore p.po⟩

/-- Swaps an amount of the counterpart that an account holds for the unit. -/
def execute {κ β : Type} [Ledger β] (p : Plan) (account : Address) (a : Amount) :
    Action κ β Exchange := do
  let e := p.exchange a
  Action.onLedger (Ledger.sendToModule account transferModule e.burned)
  Action.onLedger (Ledger.burn transferModule e.burned)
  Action.onLedger (Ledger.sendFromModule transferModule account e.released)
  return e

end Plan

end Interchain
