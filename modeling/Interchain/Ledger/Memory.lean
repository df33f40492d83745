import Interchain.FiniteMap
import Interchain.Ledger.Basic

/-!
# The stored ledger

Balances and supplies as finite maps in which a zero is not stored, and the registered modules.
Funding an account creates coins out of nothing, the way the balances of a new chain are made.
-/

set_option autoImplicit false

namespace Interchain

/-- A ledger that is stored as it stands. -/
structure MemoryLedger where
  balances : FiniteMap Holding Amount
  supplies : FiniteMap Denom Amount
  modules : FiniteMap String ModulePermissions
deriving DecidableEq

/-- The map with the amount at `k` set to `a`; zero is what a missing key stands for. -/
def FiniteMap.setAmount {κ : Type} [Ord κ] [Std.TransOrd κ] [DecidableEq κ]
    (m : FiniteMap κ Amount) (k : κ) (a : Amount) : FiniteMap κ Amount :=
  if a = 0 then m.erase k else m.insert k a

/-- The amount at `k`, zero if the key is missing. -/
def FiniteMap.amount {κ : Type} [Ord κ] [DecidableEq κ] (m : FiniteMap κ Amount) (k : κ) :
    Amount :=
  (m.get? k).getD 0

namespace MemoryLedger

instance : EmptyCollection MemoryLedger := ⟨⟨∅, ∅, ∅⟩⟩

instance : Ledger MemoryLedger where
  balance b account denom := b.balances.amount ⟨account, denom⟩
  setBalance b account denom a := { b with balances := b.balances.setAmount ⟨account, denom⟩ a }
  supply b denom := b.supplies.amount denom
  setSupply b denom a := { b with supplies := b.supplies.setAmount denom a }
  permissions b moduleName := (b.modules.get? moduleName).getD {}

/-- The ledger with a module registered under `permissions`. -/
def registerModule (b : MemoryLedger) (moduleName : String) (permissions : ModulePermissions) :
    MemoryLedger :=
  { b with modules := b.modules.insert moduleName permissions }

/-- The ledger with a coin added to an account and to the supply. -/
def fund (b : MemoryLedger) (account : Address) (coin : Coin) : MemoryLedger :=
  let b := Ledger.credit b account coin
  Ledger.setSupply b coin.denom (Ledger.supply b coin.denom + coin.amount)

/-- What an account has, in the order of the denominations. -/
def balancesOf (b : MemoryLedger) (account : Address) : List Coin :=
  (b.balances.toList.filter fun e => e.1.account = account).map fun e => ⟨e.1.denom, e.2⟩

/-- The sum of all balances of a denomination. -/
def totalHeld (b : MemoryLedger) (denom : Denom) : Amount :=
  ((b.balances.toList.filter fun e => e.1.denom = denom).map (·.2)).foldr (· + ·) 0

end MemoryLedger

end Interchain
