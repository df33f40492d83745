import Interchain.Ledger.Basic

/-!
# Commands to a ledger

The operations and reads of a ledger as data, so that a sequence of them can be played against
any ledger. The ledger that a command leaves counts, also if the command fails.
-/

set_option autoImplicit false

namespace Interchain

inductive LedgerCommand where
  | send (source target : Address) (coin : Coin)
  | sendToModule (source : Address) (moduleName : String) (coin : Coin)
  | sendFromModule (moduleName : String) (target : Address) (coin : Coin)
  | mint (moduleName : String) (coin : Coin)
  | burn (moduleName : String) (coin : Coin)
  | setBalance (account : Address) (denom : Denom) (amount : Amount)
  | setSupply (denom : Denom) (amount : Amount)
  | balance (account : Address) (denom : Denom)
  | supply (denom : Denom)
  | permissions (moduleName : String)
deriving DecidableEq

/-- What a ledger answers to a command. -/
inductive LedgerReply where
  | done
  | amount (a : Amount)
  | permissions (p : ModulePermissions)
deriving DecidableEq

namespace LedgerCommand

variable {β : Type} [Ledger β]

omit [Ledger β] in
/-- The answer to an operation and the ledger that it leaves. -/
def perform (b : β) (operation : LedgerOperation β Unit) : Except LedgerError LedgerReply × β :=
  match operation.run b with
  | .ok _ after => (.ok .done, after)
  | .error error after => (.error error, after)

/-- The answer to a command and the ledger after it. -/
def run (b : β) : LedgerCommand → Except LedgerError LedgerReply × β
  | .send source target coin => perform b (Ledger.send source target coin)
  | .sendToModule source name coin => perform b (Ledger.sendToModule source name coin)
  | .sendFromModule name target coin => perform b (Ledger.sendFromModule name target coin)
  | .mint name coin => perform b (Ledger.mint name coin)
  | .burn name coin => perform b (Ledger.burn name coin)
  | .setBalance account denom a => (.ok .done, Ledger.setBalance b account denom a)
  | .setSupply denom a => (.ok .done, Ledger.setSupply b denom a)
  | .balance account denom => (.ok (.amount (Ledger.balance b account denom)), b)
  | .supply denom => (.ok (.amount (Ledger.supply b denom)), b)
  | .permissions name => (.ok (.permissions (Ledger.permissions b name)), b)

end LedgerCommand

end Interchain
