import Interchain.Ledger.Basic
import Interchain.Proofs.Attempt

/-!
# What operations come to

Sending, minting and burning read, check and write one step after the other. Written out, each is a
function of the ledger before it, and all its checks come before its first write
(`Ledger.send_eq_settled`, `Ledger.mint_eq_settled`, `Ledger.burn_eq_settled`). So an operation that
is refused leaves any ledger as it was.
-/

set_option autoImplicit false

namespace Interchain.Ledger

open Attempt (settled get_bind)

variable {β : Type} [Ledger β]

/-! ## Runs written out -/

theorem send_eq_settled (b : β) (source target : Address) (coin : Coin) :
    send source target coin b = settled b
      (if coin.isZero then
        .ok b
      else
        match (balance b source coin.denom).sub? coin.amount with
        | none => .error (.insufficientFunds source coin (balance b source coin.denom))
        | some remaining =>
            .ok (credit (setBalance b source coin.denom remaining) target coin)) := by
  rw [send]
  cases coin.isZero with
  | true => rfl
  | false =>
      simp only [Bool.false_eq_true, if_false, get_bind]
      cases (balance b source coin.denom).sub? coin.amount with
      | none => rfl
      | some remaining => rfl

theorem mint_eq_settled (b : β) (name : String) (coin : Coin) :
    mint name coin b = settled b
      (if !(permissions b name).minter then
        .error (.mintNotPermitted name)
      else if coin.isZero then
        .ok b
      else
        let c := credit b (.ofModule name) coin
        .ok (setSupply c coin.denom (supply c coin.denom + coin.amount))) := by
  rw [mint, get_bind]
  cases (permissions b name).minter with
  | false => rfl
  | true =>
      cases coin.isZero with
      | true => rfl
      | false => rfl

theorem burn_eq_settled (b : β) (name : String) (coin : Coin) :
    burn name coin b = settled b
      (if !(permissions b name).burner then
        .error (.burnNotPermitted name)
      else if coin.isZero then
        .ok b
      else
        let account := Address.ofModule name
        let available := balance b account coin.denom
        match available.sub? coin.amount, (supply b coin.denom).sub? coin.amount with
        | none, _ => .error (.insufficientFunds account coin available)
        | some _, none => .error (.supplyUnderflow coin.denom)
        | some remaining, some left =>
            .ok (setSupply (setBalance b account coin.denom remaining) coin.denom left)) := by
  rw [burn, get_bind]
  cases (permissions b name).burner with
  | false => rfl
  | true =>
      cases coin.isZero with
      | true => rfl
      | false =>
          simp only [Bool.not_true, Bool.false_eq_true, if_false, get_bind]
          cases (balance b (.ofModule name) coin.denom).sub? coin.amount with
          | none => rfl
          | some remaining =>
              simp only [get_bind]
              cases (supply b coin.denom).sub? coin.amount with
              | none => rfl
              | some left => rfl

/-! ## Refusals -/

/-- **A payment that is refused leaves the ledger as it was.** -/
instance (source target : Address) (coin : Coin) :
    (send source target coin : LedgerOperation β Unit).Atomic :=
  .of_settled fun b => send_eq_settled b source target coin

instance (source : Address) (name : String) (coin : Coin) :
    (sendToModule source name coin : LedgerOperation β Unit).Atomic :=
  inferInstanceAs (send source (.ofModule name) coin).Atomic

instance (name : String) (target : Address) (coin : Coin) :
    (sendFromModule name target coin : LedgerOperation β Unit).Atomic :=
  inferInstanceAs (send (.ofModule name) target coin).Atomic

/-- **So does minting that is refused.** -/
instance (name : String) (coin : Coin) : (mint name coin : LedgerOperation β Unit).Atomic :=
  .of_settled fun b => mint_eq_settled b name coin

/-- **So does burning that is refused.** -/
instance (name : String) (coin : Coin) : (burn name coin : LedgerOperation β Unit).Atomic :=
  .of_settled fun b => burn_eq_settled b name coin

end Interchain.Ledger
