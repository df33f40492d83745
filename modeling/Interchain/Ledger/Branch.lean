import Interchain.FiniteMap
import Interchain.Ledger.Basic

/-!
# Branches of a ledger

A branch stands in front of a ledger. Writes stay in the branch; what was not written is read
from the parent. Committing carries the writes over to the parent, dropping the branch forgets
them. Branches are ledgers, so they can be branched again.
-/

set_option autoImplicit false

namespace Interchain

/-- A ledger behind buffered writes. -/
structure Branch (β : Type) where
  parent : β
  balances : FiniteMap Holding Amount := ∅
  supplies : FiniteMap Denom Amount := ∅

namespace Branch

variable {β : Type} [Ledger β]

instance : Ledger (Branch β) where
  balance b account denom :=
    (b.balances.get? ⟨account, denom⟩).getD (Ledger.balance b.parent account denom)
  setBalance b account denom a := { b with balances := b.balances.insert ⟨account, denom⟩ a }
  supply b denom := (b.supplies.get? denom).getD (Ledger.supply b.parent denom)
  setSupply b denom a := { b with supplies := b.supplies.insert denom a }
  permissions b moduleName := Ledger.permissions b.parent moduleName

omit [Ledger β] in
/-- A branch without writes. -/
def start (parent : β) : Branch β :=
  { parent }

omit [Ledger β] in
/-- Whether the branch holds a write. -/
def isDirty (b : Branch β) : Bool :=
  !b.balances.isEmpty || !b.supplies.isEmpty

/-- The parent after the writes of the branch. -/
def commit (b : Branch β) : β :=
  let withBalances := b.balances.toList.foldl
    (fun p e => Ledger.setBalance p e.1.account e.1.denom e.2) b.parent
  b.supplies.toList.foldl (fun p e => Ledger.setSupply p e.1 e.2) withBalances

end Branch

end Interchain
