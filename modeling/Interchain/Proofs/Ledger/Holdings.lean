import Interchain.Proofs.Ledger.Nesting
import Interchain.Proofs.Ledger.Total

/-!
# Supplies and holdings

A ledger is balanced if the supply of each denomination is what all accounts hold of it. What all
accounts hold can be told of a stored ledger only, so a branch counts as balanced if it shows what
some balanced stored ledger shows. Postings keep a ledger balanced (`Balanced.post`), and on a
balanced ledger nothing is refused for lack of supply (`Balanced.post_ne_supplyUnderflow`): no
account holds more of a denomination than there is.

At a depth every ledger down to the stored one has to be in order (`Nested.Consistent`): balanced,
and the stored one without zeros. Postings, and opening, committing and dropping a branch, keep it
so.
-/

set_option autoImplicit false

namespace Interchain

/-! ## Balanced ledgers -/

namespace Ledger

variable {β γ : Type} [Ledger β] [Ledger γ] {b c : β}

/-- Whether the supplies are what a stored ledger with these balances holds. -/
def Balanced (b : β) : Prop :=
  ∃ c : MemoryLedger, view c = view b ∧ ∀ denom, c.totalHeld denom = supply c denom

/-- What is balanced is told by what is shown. -/
theorem Balanced.of_view {b : β} {c : γ} (hb : Balanced b) (h : view c = view b) : Balanced c := by
  obtain ⟨stored, hview, hheld⟩ := hb
  exact ⟨stored, hview.trans h.symm, hheld⟩

/-- The supply on a stored ledger that is balanced. -/
theorem Balanced.totalHeld {b : MemoryLedger} (hb : Balanced b) (denom : Denom) :
    b.totalHeld denom = supply b denom := by
  obtain ⟨c, hview, hheld⟩ := hb
  rw [MemoryLedger.totalHeld_eq_of_view hview.symm, hheld]
  exact congrFun (congrArg LedgerView.supply hview) denom

/-- No account holds more than there is. -/
theorem Balanced.balance_le_supply (hb : Balanced b) (account : Address) (denom : Denom) :
    balance b account denom ≤ supply b denom := by
  obtain ⟨c, hview, hheld⟩ := hb
  have hle := c.balance_le_totalHeld account denom
  rw [hheld, ← balance_view, ← supply_view, hview] at hle
  exact hle

/-- **Postings keep a ledger balanced.** -/
theorem Balanced.post [LawfulLedger β] (hb : Balanced b) {js : Journal}
    (h : Journal.post b js = .ok c) : Balanced c := by
  obtain ⟨stored, hview, hheld⟩ := hb
  -- the stored ledger is posted the same journal
  have hshown := Journal.post_view_of_post h
  rw [← hview] at hshown
  obtain ⟨after, hafter, hviewAfter⟩ := Journal.exists_post_of_view hshown
  refine ⟨after, hviewAfter, fun denom => ?_⟩
  have htotal := MemoryLedger.totalHeld_post hafter denom
  have hsupply := Journal.supply_post hafter denom
  rw [hheld, ← hsupply] at htotal
  exact Int.ofNat.inj htotal

/-- **A burn is never refused for lack of supply.** -/
theorem Balanced.burn_ne_supplyUnderflow (hb : Balanced b) (name : String) (coin : Coin)
    (denom : Denom) : (burn name coin).outcome b ≠ .error (.supplyUnderflow denom) := by
  have hle := hb.balance_le_supply (.ofModule name) coin.denom
  rw [Attempt.outcome_of_settled (burn_eq_settled ..)]
  split
  · exact nofun
  split
  · exact nofun
  -- what the account has can be taken from the supply
  dsimp only
  cases hheld : (balance b (.ofModule name) coin.denom).sub? coin.amount with
  | none => simp
  | some remaining =>
      obtain ⟨hamount, -⟩ := sub?_eq_some_iff.1 hheld
      have hleft := sub?_eq_some_iff.2 ⟨Nat.le_trans hamount hle, rfl⟩
      simp [hleft]

/-- No posting is refused for lack of supply. -/
theorem Balanced.post_ne_supplyUnderflow (hb : Balanced b) (j : Posting) (denom : Denom) :
    j.post b ≠ .error (.supplyUnderflow denom) := by
  cases j with
  | pay source target coin =>
      rw [Posting.post, Posting.operation, Attempt.outcome_of_settled (send_eq_settled ..)]
      split
      · simp
      · cases (balance b source coin.denom).sub? coin.amount with
        | none => simp
        | some remaining => simp
  | mint name coin =>
      rw [Posting.post, Posting.operation, Attempt.outcome_of_settled (mint_eq_settled ..)]
      split
      · simp
      · split
        · simp
        · simp
  | burn name coin => exact hb.burn_ne_supplyUnderflow name coin denom

end Ledger

open Ledger

/-! ## What is stored -/

theorem FiniteMap.get?_setAmount_ne_zero {κ : Type} [Ord κ] [Std.TransOrd κ] [Std.LawfulEqOrd κ]
    [DecidableEq κ] {m : FiniteMap κ Amount} (hm : ∀ k, m.get? k ≠ some 0) (k : κ) (a : Amount)
    (l : κ) : (m.setAmount k a).get? l ≠ some 0 := by
  rw [get?_setAmount]
  by_cases hl : l = k
  · by_cases ha : a = 0
    · simp [hl, ha]
    · simp [hl, ha]
  · rw [if_neg hl]
    exact hm l

namespace MemoryLedger

/-- Whether no zero is stored. -/
structure Sparse (b : MemoryLedger) : Prop where
  balances : ∀ holding, b.balances.get? holding ≠ some 0
  supplies : ∀ denom, b.supplies.get? denom ≠ some 0

/-- **No write stores a zero.** -/
theorem stable_sparse : Stable Sparse where
  setBalance h _ _ a := ⟨FiniteMap.get?_setAmount_ne_zero h.balances _ a, h.supplies⟩
  setSupply h denom a := ⟨h.balances, FiniteMap.get?_setAmount_ne_zero h.supplies denom a⟩

/-- Whether the supplies are what is held, and no zero is stored. -/
structure Consistent (b : MemoryLedger) : Prop where
  balanced : Balanced b
  sparse : b.Sparse

theorem consistent_empty : (∅ : MemoryLedger).Consistent where
  balanced := ⟨∅, rfl, fun _ => rfl⟩
  sparse := ⟨fun _ => nofun, fun _ => nofun⟩

/-- What is given to an account is added to the supply. -/
theorem Consistent.fund {b : MemoryLedger} (hb : b.Consistent) (account : Address) (coin : Coin) :
    (b.fund account coin).Consistent where
  balanced := by
    refine ⟨_, rfl, fun denom => Int.ofNat.inj ?_⟩
    have hcredit := totalHeld_credit b account coin denom
    show ((Ledger.credit b account coin).totalHeld denom : Int) = supply (b.fund account coin) denom
    rw [hcredit, hb.balanced.totalHeld, MemoryLedger.fund, LawfulLedger.supply_setSupply, credit,
      LawfulLedger.supply_setBalance, Coin.worth]
    by_cases hd : denom = coin.denom
    · subst hd
      simp
    · simp [hd]
  sparse := stable_sparse.setSupply (stable_sparse.setBalance hb.sparse _ _ _) _ _

theorem Consistent.registerModule {b : MemoryLedger} (hb : b.Consistent) (name : String)
    (p : ModulePermissions) : (b.registerModule name p).Consistent where
  balanced := ⟨_, rfl, hb.balanced.totalHeld⟩
  sparse := ⟨hb.sparse.balances, hb.sparse.supplies⟩

end MemoryLedger

/-! ## Ledgers at a depth -/

/-- What no write ends is not ended by a commit. -/
theorem Ledger.Stable.commit {β : Type} [Ledger β] {P : β → Prop} (hP : Stable P) (b : Branch β)
    (hb : P b.parent) : P b.commit := by
  have hbalances : ∀ (es : List (Holding × Amount)) (c : β), P c →
      P (es.foldl (fun p e => Ledger.setBalance p e.1.account e.1.denom e.2) c) := by
    intro es
    induction es with
    | nil => exact fun c hc => hc
    | cons e es ih => exact fun c hc => ih _ (hP.setBalance hc _ _ _)
  have hsupplies : ∀ (es : List (Denom × Amount)) (c : β), P c →
      P (es.foldl (fun p e => Ledger.setSupply p e.1 e.2) c) := by
    intro es
    induction es with
    | nil => exact fun c hc => hc
    | cons e es ih => exact fun c hc => ih _ (hP.setSupply hc _ _)
  exact hsupplies _ _ (hbalances _ _ hb)

namespace Nested

/-- Whether the stored ledger is consistent and its branches are balanced. -/
def Consistent : {n : Nat} → Nested n → Prop
  | 0, b => MemoryLedger.Consistent b
  | _ + 1, b => b.parent.Consistent ∧ Balanced b

theorem Consistent.balanced : {n : Nat} → {b : Nested n} → b.Consistent → Balanced b
  | 0, _, hb => MemoryLedger.Consistent.balanced hb
  | _ + 1, _, hb => hb.2

variable {n : Nat}

theorem Consistent.parent {b : Nested (n + 1)} (hb : b.Consistent) : b.parent.Consistent :=
  hb.1

theorem Consistent.start {b : Nested n} (hb : b.Consistent) : b.start.Consistent :=
  ⟨hb, hb.balanced.of_view rfl⟩

/-- **A commit keeps all ledgers in order.** -/
theorem Consistent.commit {b : Nested (n + 1)} (hb : b.Consistent) : b.commit.Consistent := by
  have hbalanced : Balanced b.commit := hb.balanced.of_view (morphism_commit.view_eq b)
  cases n with
  | zero => exact ⟨hbalanced, MemoryLedger.stable_sparse.commit b hb.1.sparse⟩
  | succ n =>
      -- the commit wrote to the parent, and not behind it
      have hparent : b.commit.parent = b.parent.parent :=
        (stable_parent b.parent.parent).commit b rfl
      refine ⟨?_, hbalanced⟩
      rw [hparent]
      exact hb.parent.parent

/-- **Postings keep all ledgers in order.** -/
theorem Consistent.post {b c : Nested n} (hb : b.Consistent) {js : Journal}
    (h : Journal.post b js = .ok c) : c.Consistent := by
  have hbalanced := hb.balanced.post h
  cases n with
  | zero => exact ⟨hbalanced, MemoryLedger.stable_sparse.post hb.sparse h⟩
  | succ n =>
      have hparent : c.parent = b.parent := (stable_parent b.parent).post rfl h
      refine ⟨?_, hbalanced⟩
      rw [hparent]
      exact hb.parent

end Nested

end Interchain
