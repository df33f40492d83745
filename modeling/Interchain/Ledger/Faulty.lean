import Interchain.Ledger.Memory

/-!
# A ledger with injected failures

A stored ledger that can be told to refuse minting, to refuse burning, or to show an account as
empty. The failures sit in the primitives that read, so every operation meets them in the same
way, also through a branch; writes go to the stored ledger.
-/

set_option autoImplicit false

namespace Interchain

/-- Where a faulty ledger fails. -/
inductive FailPoint where
  | mint
  | burn
  /-- The account appears empty. -/
  | drained (account : Address)
deriving DecidableEq

/-- A stored ledger and the failures injected into it. -/
structure FaultyLedger where
  stored : MemoryLedger
  failPoints : List FailPoint
deriving DecidableEq

namespace FaultyLedger

instance : EmptyCollection FaultyLedger := ⟨⟨∅, []⟩⟩

def failsAt (b : FaultyLedger) (point : FailPoint) : Bool :=
  b.failPoints.contains point

instance : Ledger FaultyLedger where
  balance b account denom :=
    if b.failsAt (.drained account) then 0 else Ledger.balance b.stored account denom
  setBalance b account denom a := { b with stored := Ledger.setBalance b.stored account denom a }
  supply b denom := Ledger.supply b.stored denom
  setSupply b denom a := { b with stored := Ledger.setSupply b.stored denom a }
  permissions b moduleName :=
    let p := Ledger.permissions b.stored moduleName
    ⟨p.minter && !b.failsAt .mint, p.burner && !b.failsAt .burn⟩

/-- The ledger that also fails at `point`. -/
def failOn (b : FaultyLedger) (point : FailPoint) : FaultyLedger :=
  { b with failPoints := b.failPoints ++ [point] }

/-- The ledger without injected failures. -/
def clearFailures (b : FaultyLedger) : FaultyLedger :=
  { b with failPoints := [] }

def registerModule (b : FaultyLedger) (moduleName : String) (permissions : ModulePermissions) :
    FaultyLedger :=
  { b with stored := b.stored.registerModule moduleName permissions }

def fund (b : FaultyLedger) (account : Address) (coin : Coin) : FaultyLedger :=
  { b with stored := b.stored.fund account coin }

/-- What an account has in the stored ledger, whatever failures are injected. -/
def balancesOf (b : FaultyLedger) (account : Address) : List Coin :=
  b.stored.balancesOf account

end FaultyLedger

end Interchain
