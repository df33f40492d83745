import Interchain.Address
import Interchain.Attempt
import Interchain.Denom

/-!
# Ledgers

A ledger holds what each account has of each denomination, the total supply of each
denomination, and which modules may mint and burn. Anything with these five primitives is a
ledger; moving, minting and burning coins is defined once for all of them, as reads, checks and
writes in their order. Coins of amount zero move freely.
-/

set_option autoImplicit false

namespace Interchain

/-- What a module may do besides holding coins. -/
structure ModulePermissions where
  minter : Bool := false
  burner : Bool := false
deriving DecidableEq

/-- Why a ledger refuses an operation. -/
inductive LedgerError where
  | insufficientFunds (account : Address) (needed : Coin) (available : Amount)
  | mintNotPermitted (moduleName : String)
  | burnNotPermitted (moduleName : String)
  | supplyUnderflow (denom : Denom)
deriving DecidableEq

def LedgerError.message : LedgerError → String
  | .insufficientFunds account needed available =>
      "insufficient funds in " ++ account.text ++ ": need " ++ toString needed ++ ", have " ++
        toString (Coin.mk needed.denom available)
  | .mintNotPermitted moduleName => "module " ++ moduleName ++ " is not permitted to mint"
  | .burnNotPermitted moduleName => "module " ++ moduleName ++ " is not permitted to burn"
  | .supplyUnderflow denom => "burn of " ++ denom.text ++ " exceeds its total supply"

/-- What an account has of one denomination is stored under both. -/
structure Holding where
  account : Address
  denom : Denom
deriving DecidableEq

namespace Holding

/-- By account, then by denomination. -/
def order (a b : Holding) : Ordering :=
  (compare a.account b.account).then (compare a.denom b.denom)

instance : Ord Holding := ⟨order⟩

instance : Std.TransOrd Holding :=
  inferInstanceAs (Std.TransCmp (compareLex (compareOn account) (compareOn denom)))

instance : Std.LawfulEqOrd Holding where
  eq_of_compare {a b} h := by
    have h := Ordering.then_eq_eq.1 h
    cases a
    cases b
    cases Std.LawfulEqOrd.eq_of_compare h.1
    cases Std.LawfulEqOrd.eq_of_compare h.2
    rfl

end Holding

/-- The primitives of a ledger. -/
class Ledger (β : Type) where
  balance : β → Address → Denom → Amount
  setBalance : β → Address → Denom → Amount → β
  supply : β → Denom → Amount
  setSupply : β → Denom → Amount → β
  permissions : β → String → ModulePermissions

/-- Work on a ledger, which may be refused. -/
abbrev LedgerOperation (β α : Type) := Attempt LedgerError β α

namespace Ledger

variable {β : Type} [Ledger β]

/-- Adds to the balance of an account. -/
def credit (b : β) (account : Address) (coin : Coin) : β :=
  setBalance b account coin.denom (balance b account coin.denom + coin.amount)

/-- Moves a coin from one account to another. -/
def send (source target : Address) (coin : Coin) : LedgerOperation β Unit := do
  if coin.isZero then
    return
  let available := balance (← get) source coin.denom
  match available.sub? coin.amount with
  | none => throw (.insufficientFunds source coin available)
  | some remaining =>
      modify (setBalance · source coin.denom remaining)
      -- the balance is read after the debit, so that an account can pay itself
      modify (credit · target coin)

/-- Moves a coin from an account to the account of a module. -/
def sendToModule (source : Address) (moduleName : String) (coin : Coin) : LedgerOperation β Unit :=
  send source (.ofModule moduleName) coin

/-- Moves a coin from the account of a module to an account. -/
def sendFromModule (moduleName : String) (target : Address) (coin : Coin) :
    LedgerOperation β Unit :=
  send (.ofModule moduleName) target coin

/-- Creates a coin in the account of a module that may mint. -/
def mint (moduleName : String) (coin : Coin) : LedgerOperation β Unit := do
  if !(permissions (← get) moduleName).minter then
    throw (.mintNotPermitted moduleName)
  if coin.isZero then
    return
  modify (credit · (.ofModule moduleName) coin)
  modify fun b => setSupply b coin.denom (supply b coin.denom + coin.amount)

/-- Destroys a coin in the account of a module that may burn. -/
def burn (moduleName : String) (coin : Coin) : LedgerOperation β Unit := do
  if !(permissions (← get) moduleName).burner then
    throw (.burnNotPermitted moduleName)
  if coin.isZero then
    return
  let account := Address.ofModule moduleName
  let available := balance (← get) account coin.denom
  match available.sub? coin.amount with
  | none => throw (.insufficientFunds account coin available)
  | some remaining =>
      match (supply (← get) coin.denom).sub? coin.amount with
      | none => throw (.supplyUnderflow coin.denom)
      | some left =>
          modify (setBalance · account coin.denom remaining)
          modify (setSupply · coin.denom left)

end Ledger

end Interchain
