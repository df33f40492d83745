import Interchain.Proofs.Ledger.Journal

/-!
# What is held in all

On the stored ledger, what all accounts hold of a denomination changes by what is issued
(`totalHeld_post`): payments only move coins. So a ledger on which the supply is what is held keeps
it so. What is held in all depends on nothing but the balances (`totalHeld_eq_of_view`).
-/

set_option autoImplicit false

namespace Interchain

open Ledger (balance supply view)

/-! ## Sums of amounts -/

namespace FiniteMap

variable {κ : Type} [Ord κ] [Std.TransOrd κ] [Std.LawfulEqOrd κ] [DecidableEq κ]

omit [Std.TransOrd κ] [Std.LawfulEqOrd κ] in
/-- A weight that counts amounts does not tell zero from nothing. -/
theorem weightAt_eq_amount {w : κ → Amount → Int} (hw : ∀ k, w k 0 = 0) (m : FiniteMap κ Amount)
    (k : κ) : m.weightAt w k = w k (m.amount k) := by
  rw [weightAt, amount]
  cases m.get? k with
  | none => exact (hw k).symm
  | some a => rfl

theorem sum_setAmount {w : κ → Amount → Int} (hw : ∀ k, w k 0 = 0) (m : FiniteMap κ Amount)
    (k : κ) (a : Amount) : (m.setAmount k a).sum w = m.sum w - w k (m.amount k) + w k a := by
  rw [← weightAt_eq_amount hw, setAmount]
  by_cases ha : a = 0
  · subst ha
    rw [if_pos rfl, sum_erase, hw, Int.add_zero]
  · rw [if_neg ha, sum_insert]

omit [Std.TransOrd κ] in
/-- Maps with the same amounts have the same sums. -/
theorem sum_eq_of_amount {w : κ → Amount → Int} (hw : ∀ k, w k 0 = 0) {m n : FiniteMap κ Amount}
    (h : ∀ k, m.amount k = n.amount k) : m.sum w = n.sum w := by
  obtain ⟨es, hes⟩ := m
  induction es generalizing n with
  | nil =>
      -- what the other map has are zeros, and they weigh nothing
      have hzero : n.sum w = n.sum fun _ _ => 0 := by
        apply sum_congr
        intro k a hk
        have hamount : n.amount k = 0 := (h k).symm
        rw [amount, hk] at hamount
        rw [show a = 0 from hamount, hw]
      rw [hzero, sum_zero]
      rfl
  | cons e es ih =>
      have hcons := List.pairwise_cons.1 hes
      have hhead : e.2 = n.amount e.1 := by
        rw [← h e.1]
        simp [amount, get?, lookupEntry]
      -- without the first key both maps still have the same amounts
      have hrest : ∀ k, (⟨es, hcons.2⟩ : FiniteMap κ Amount).amount k =
          (n.erase e.1).amount k := by
        intro k
        have hk := h k
        unfold amount at hk ⊢
        rw [get?_erase]
        by_cases hke : k = e.1
        · subst hke
          simp [get?, lookupEntry_of_ascending hes]
        · simpa [get?, lookupEntry, hke] using hk
      have hsum := ih hcons.2 hrest
      rw [sum_erase, weightAt_eq_amount hw, ← hhead] at hsum
      have hsplit : (⟨e :: es, hes⟩ : FiniteMap κ Amount).sum w =
          w e.1 e.2 + (⟨es, hcons.2⟩ : FiniteMap κ Amount).sum w := rfl
      omega

end FiniteMap

namespace MemoryLedger

/-- What a holding counts for a denomination. -/
def holdingWeight (denom : Denom) (h : Holding) (a : Amount) : Int :=
  if h.denom = denom then a else 0

theorem holdingWeight_zero (denom : Denom) (h : Holding) : holdingWeight denom h 0 = 0 := by
  simp [holdingWeight]

theorem holdingWeight_nonneg (denom : Denom) (h : Holding) (a : Amount) :
    0 ≤ holdingWeight denom h a := by
  rw [holdingWeight]
  split
  · exact Int.natCast_nonneg a
  · exact Int.le_refl 0

theorem totalHeld_eq_sum (b : MemoryLedger) (denom : Denom) :
    (b.totalHeld denom : Int) = b.balances.sum (holdingWeight denom) := by
  rw [totalHeld, FiniteMap.sum]
  induction b.balances.toList with
  | nil => rfl
  | cons e es ih =>
      rw [FiniteMap.sumEntries, ← ih]
      by_cases h : e.1.denom = denom
      · simp [h, holdingWeight]
      · simp [h, holdingWeight]

/-- No account holds more than is held in all. -/
theorem balance_le_totalHeld (b : MemoryLedger) (account : Address) (denom : Denom) :
    balance b account denom ≤ b.totalHeld denom := by
  have h := FiniteMap.weightAt_le_sum (holdingWeight_nonneg denom) b.balances ⟨account, denom⟩
  rw [FiniteMap.weightAt_eq_amount (holdingWeight_zero denom), ← totalHeld_eq_sum,
    holdingWeight, if_pos rfl] at h
  exact Int.ofNat_le.1 h

/-- **What is held in all is told by the balances.** -/
theorem totalHeld_eq_of_view {b c : MemoryLedger} (h : view b = view c) (denom : Denom) :
    b.totalHeld denom = c.totalHeld denom := by
  apply Int.ofNat.inj
  show (b.totalHeld denom : Int) = c.totalHeld denom
  rw [totalHeld_eq_sum, totalHeld_eq_sum]
  apply FiniteMap.sum_eq_of_amount (holdingWeight_zero denom)
  intro k
  exact congrFun (congrFun (congrArg LedgerView.balance h) k.account) k.denom

theorem totalHeld_setBalance (b : MemoryLedger) (account : Address) (kind : Denom) (a : Amount)
    (denom : Denom) :
    ((Ledger.setBalance b account kind a).totalHeld denom : Int) =
      b.totalHeld denom + if denom = kind then (a : Int) - balance b account kind else 0 := by
  rw [totalHeld_eq_sum, totalHeld_eq_sum]
  show (b.balances.setAmount ⟨account, kind⟩ a).sum _ = _
  rw [FiniteMap.sum_setAmount (holdingWeight_zero denom)]
  show _ - holdingWeight denom ⟨account, kind⟩ (balance b account kind) + _ = _
  unfold holdingWeight
  by_cases h : kind = denom
  · subst h
    simp only [if_true]
    omega
  · simp [h, Ne.symm h]

@[simp]
theorem totalHeld_setSupply (b : MemoryLedger) (kind : Denom) (a : Amount) (denom : Denom) :
    (Ledger.setSupply b kind a).totalHeld denom = b.totalHeld denom :=
  rfl

theorem totalHeld_credit (b : MemoryLedger) (account : Address) (coin : Coin) (denom : Denom) :
    ((Ledger.credit b account coin).totalHeld denom : Int) =
      b.totalHeld denom + coin.worth denom := by
  rw [Ledger.credit, Coin.worth, totalHeld_setBalance]
  by_cases h : denom = coin.denom
  · rw [if_pos h, if_pos h]
    push_cast
    omega
  · simp [h]

/-- A posting changes what is held in all by what it issues. -/
theorem totalHeld_posting {b c : MemoryLedger} {j : Posting} (h : j.post b = .ok c)
    (denom : Denom) : (c.totalHeld denom : Int) = b.totalHeld denom + j.issue denom := by
  cases j with
  | pay source target coin =>
      obtain ⟨hle, rfl⟩ := Ledger.send_eq_ok_iff.1 h
      by_cases hzero : coin.isZero
      · simp [hzero, Posting.issue]
      · have hle := Int.ofNat_le.2 hle
        simp only [hzero, Bool.false_eq_true, if_false]
        -- what the payer loses the other account is given
        rw [totalHeld_credit, totalHeld_setBalance]
        simp only [Coin.worth, Posting.issue]
        by_cases hd : denom = coin.denom
        · subst hd
          simp
          omega
        · simp [hd]
  | mint name coin =>
      obtain ⟨-, rfl⟩ := Ledger.mint_eq_ok_iff.1 h
      by_cases hzero : coin.isZero
      · have hamount := Coin.amount_of_isZero hzero
        simp [hzero, Posting.issue, Coin.worth, hamount]
      · simp [hzero, Posting.issue, totalHeld_credit]
  | burn name coin =>
      obtain ⟨-, hheld, -, rfl⟩ := Ledger.burn_eq_ok_iff.1 h
      by_cases hzero : coin.isZero
      · have hamount := Coin.amount_of_isZero hzero
        simp [hzero, Posting.issue, Coin.worth, hamount]
      · have hheld := Int.ofNat_le.2 hheld
        simp only [hzero, Bool.false_eq_true, if_false, totalHeld_setSupply]
        rw [totalHeld_setBalance]
        simp only [Coin.worth, Posting.issue]
        by_cases hd : denom = coin.denom
        · subst hd
          simp
          omega
        · simp [hd]

/-- **A journal changes what is held in all by what it issues.** -/
theorem totalHeld_post {b c : MemoryLedger} {js : Journal} (h : Journal.post b js = .ok c)
    (denom : Denom) : (c.totalHeld denom : Int) = b.totalHeld denom + Journal.issue js denom := by
  induction js generalizing b with
  | nil =>
      cases h
      simp [Journal.issue]
  | cons j js ih =>
      obtain ⟨d, hd, hc⟩ := Journal.post_cons_eq_ok_iff.1 h
      rw [ih hc, totalHeld_posting hd, Journal.issue]
      omega

/-- A journal that leads to what a ledger shows changes what is held in all as it changes the
supply. -/
theorem totalHeld_sub_supply {b c : MemoryLedger} {js : Journal}
    (h : Journal.post (view b) js = .ok (view c)) (denom : Denom) :
    (c.totalHeld denom : Int) - supply c denom = b.totalHeld denom - supply b denom := by
  obtain ⟨d, hd, hview⟩ := Journal.exists_post_of_view h
  have htotal := totalHeld_post hd denom
  have hsupply := Journal.supply_post hd denom
  rw [totalHeld_eq_of_view hview] at htotal
  have hshown : supply d denom = supply c denom := congrFun (congrArg LedgerView.supply hview) denom
  rw [hshown] at hsupply
  omega

end MemoryLedger

end Interchain
