import Interchain.Proofs.Ledger.Nesting

/-!
# Operations one by one

What a single operation does to a ledger at any depth: the stored ledger, or a branch of a branch
of it. An operation is carried out exactly if the ledger has what it needs. Then balances and
supplies differ from before by the coin of the operation and by nothing else, whichever accounts
are the same, and what lies under a branch is left alone. If it is refused, the ledger is the one
before (`operations_exact`).
-/

set_option autoImplicit false

namespace Interchain

open Ledger (balance supply permissions view)

/-- Whether a ledger differs from the one before by a change of balances and an issue of supplies,
and by nothing else that it shows. -/
structure Ledger.Differs {β : Type} [Ledger β] (before after : β)
    (change : Address → Denom → Int) (issue : Denom → Int) : Prop where
  balance : ∀ account denom, (Ledger.balance after account denom : Int) =
    Ledger.balance before account denom + change account denom
  supply : ∀ denom, (Ledger.supply after denom : Int) = Ledger.supply before denom + issue denom
  permissions : Ledger.permissions after = Ledger.permissions before

/-- A ledger that differs by nothing shows what it showed before. -/
theorem Ledger.Differs.view_eq {β : Type} [Ledger β] {before after : β}
    {change : Address → Denom → Int} {issue : Denom → Int} (h : Differs before after change issue)
    (hchange : ∀ account denom, change account denom = 0) (hissue : ∀ denom, issue denom = 0) :
    view after = view before := by
  apply LedgerView.eq_of_numbers
  · intro account denom
    have hbalance := h.balance account denom
    rw [hchange, Int.add_zero] at hbalance
    exact hbalance
  · intro denom
    have hsupply := h.supply denom
    rw [hissue, Int.add_zero] at hsupply
    exact hsupply
  · exact congrFun h.permissions

namespace LedgerCommand

variable {β : Type} [Ledger β]

/-- Whether a command is carried out on a ledger exactly if `needs` holds, with `change` and `issue`
as its whole effect, and is refused without any effect if not. -/
structure Exact (b : β) (command : LedgerCommand) (needs : Prop)
    (change : Address → Denom → Int) (issue : Denom → Int) : Prop where
  carried : needs → ∃ after, command.run b = (.ok .done, after) ∧
    Ledger.Differs b after change issue
  refused : ¬ needs → ∃ error, command.run b = (.error error, b)

/-- What is needed may be said in other words. -/
theorem Exact.congr {b : β} {command : LedgerCommand} {needs needs' : Prop}
    {change : Address → Denom → Int} {issue : Denom → Int}
    (h : Exact b command needs change issue) (hneeds : needs ↔ needs') :
    Exact b command needs' change issue where
  carried hn := h.carried (hneeds.2 hn)
  refused hn := h.refused fun hneeded => hn (hneeds.1 hneeded)

/-- **A command that makes a posting is carried out exactly.** -/
theorem exact_of_posting [LawfulLedger β] {b : β} {command : LedgerCommand} {j : Posting}
    (h : command.run b = perform b j.operation) :
    Exact b command (j.Covered b) j.change j.issue where
  carried hcovered := by
    obtain ⟨c, hc⟩ := (Posting.exists_post_iff j).2 hcovered
    refine ⟨c, ?_, ?_⟩
    · rw [h, perform_operation, hc]
      rfl
    · exact {
        balance := Posting.balance_post hc
        supply := Posting.supply_post hc
        permissions := funext (Posting.permissions_post hc) }
  refused hshort := by
    cases hpost : j.post b with
    | ok c => exact absurd ((Posting.exists_post_iff j).1 ⟨c, hpost⟩) hshort
    | error error =>
        refine ⟨error, ?_⟩
        rw [h, perform_operation, hpost]
        rfl

end LedgerCommand

/-- A coin of amount zero is covered by anything. -/
theorem Coin.le_of_isZero {coin : Coin} (h : coin.isZero = true) (available : Amount) :
    coin.amount ≤ available := by
  rw [amount_of_isZero h]
  exact Nat.zero_le available

/-- What a payer and a payee that are the same account pay each other. -/
theorem Posting.change_pay_self (account : Address) (coin : Coin) (owner : Address)
    (denom : Denom) : (Posting.pay account account coin).change owner denom = 0 :=
  Int.sub_self _

/-- **Operations are exact at every depth.** On the stored ledger and on any stack of branches over
it, for all accounts, modules and coins: a payment is carried out if and only if the coin is zero or
the payer has it, and it moves the coin, so that paying oneself changes nothing; minting if and only
if the module may mint, and it adds the coin to the account of the module and to the supply; burning
if and only if the module may burn and the coin is zero or both its account and the supply have it,
and it takes the coin from both. No other balance or supply changes, whatever is refused leaves the
ledger as it was, and no command reaches what lies under a branch. -/
theorem operations_exact (n : Nat) (b : Nested n) (source target : Address) (name : String)
    (coin : Coin) :
    LedgerCommand.Exact b (.send source target coin)
        (coin.isZero = true ∨ coin.amount ≤ balance b source coin.denom)
        (fun account denom => coin.share target account denom - coin.share source account denom)
        (fun _ => 0) ∧
      LedgerCommand.Exact b (.sendToModule source name coin)
        (coin.isZero = true ∨ coin.amount ≤ balance b source coin.denom)
        (fun account denom =>
          coin.share (.ofModule name) account denom - coin.share source account denom)
        (fun _ => 0) ∧
      LedgerCommand.Exact b (.sendFromModule name target coin)
        (coin.isZero = true ∨ coin.amount ≤ balance b (.ofModule name) coin.denom)
        (fun account denom =>
          coin.share target account denom - coin.share (.ofModule name) account denom)
        (fun _ => 0) ∧
      view ((LedgerCommand.send source source coin).run b).2 = view b ∧
      LedgerCommand.Exact b (.mint name coin)
        ((permissions b name).minter = true)
        (coin.share (.ofModule name)) coin.worth ∧
      LedgerCommand.Exact b (.burn name coin)
        ((permissions b name).burner = true ∧
          (coin.isZero = true ∨
            coin.amount ≤ balance b (.ofModule name) coin.denom ∧
              coin.amount ≤ supply b coin.denom))
        (fun account denom => -coin.share (.ofModule name) account denom)
        (fun denom => -coin.worth denom) ∧
      ∀ (c : Nested (n + 1)) (command : LedgerCommand), (command.run c).2.parent = c.parent := by
  have hpay : ∀ payer payee, LedgerCommand.Exact b (.send payer payee coin)
      (coin.isZero = true ∨ coin.amount ≤ balance b payer coin.denom)
      (Posting.pay payer payee coin).change (Posting.pay payer payee coin).issue := by
    intro payer payee
    -- a coin of amount zero is covered whatever the payer has
    apply LedgerCommand.Exact.congr (LedgerCommand.exact_of_posting rfl)
    constructor
    · exact .inr
    · rintro (hzero | hheld)
      · exact Coin.le_of_isZero hzero _
      · exact hheld
  refine ⟨hpay source target, ?_, ?_, ?_, ?_, ?_, ?_⟩
  · exact ⟨(hpay source (.ofModule name)).carried, (hpay source (.ofModule name)).refused⟩
  · exact ⟨(hpay (.ofModule name) target).carried, (hpay (.ofModule name) target).refused⟩
  · by_cases hneeds : coin.isZero = true ∨ coin.amount ≤ balance b source coin.denom
    · obtain ⟨after, hrun, hdiffers⟩ := (hpay source source).carried hneeds
      rw [hrun]
      exact hdiffers.view_eq (Posting.change_pay_self source coin) fun _ => rfl
    · obtain ⟨error, hrun⟩ := (hpay source source).refused hneeds
      rw [hrun]
  · exact LedgerCommand.exact_of_posting (j := .mint name coin) rfl
  · apply LedgerCommand.Exact.congr (LedgerCommand.exact_of_posting (j := .burn name coin) rfl)
    constructor
    · rintro ⟨hburner, hcovered⟩
      exact ⟨hburner, .inr hcovered⟩
    · rintro ⟨hburner, hzero | hcovered⟩
      · exact ⟨hburner, Coin.le_of_isZero hzero _, Coin.le_of_isZero hzero _⟩
      · exact ⟨hburner, hcovered⟩
  · intro c command
    exact LedgerCommand.stable_run (Nested.stable_parent c.parent) rfl command

end Interchain
