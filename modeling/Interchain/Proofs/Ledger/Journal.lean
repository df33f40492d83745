import Interchain.Proofs.Ledger.View

/-!
# Journals

A journal is a list of postings, each of which pays, mints or burns a coin. Posting a journal to a
ledger plays these operations one after the other and stops at the first that is refused. The
effect of a journal on balances and supplies does not depend on the ledger: it is the sum of what
its postings add (`Journal.balance_post`, `Journal.supply_post`).

Every journal has an inverse, the opposite postings in the opposite order. A journal that was
posted can be taken back: right after it, posting the inverse is never refused and gives the
ledger before (`Journal.post_inverse`), and whenever it is posted it takes away what the journal
added (`Journal.change_inverse`, `Journal.issue_inverse`).
-/

set_option autoImplicit false

namespace Interchain

open Ledger (balance supply permissions view)

/-- What a coin adds to a balance if it goes to `owner`. -/
def Coin.share (coin : Coin) (owner account : Address) (denom : Denom) : Int :=
  if account = owner ∧ denom = coin.denom then coin.amount else 0

/-- What a coin adds to a supply if it is created. -/
def Coin.worth (coin : Coin) (denom : Denom) : Int :=
  if denom = coin.denom then coin.amount else 0

theorem Coin.amount_of_isZero {coin : Coin} (h : coin.isZero = true) : coin.amount = 0 := by
  simpa [Coin.isZero] using h

@[simp]
theorem Coin.share_self (coin : Coin) (owner : Address) :
    coin.share owner owner coin.denom = coin.amount :=
  if_pos ⟨rfl, rfl⟩

theorem Coin.share_of_ne {coin : Coin} {owner account : Address} (h : account ≠ owner)
    (denom : Denom) : coin.share owner account denom = 0 :=
  if_neg fun hboth => h hboth.1

theorem Coin.share_of_denom_ne {coin : Coin} {denom : Denom} (h : denom ≠ coin.denom)
    (owner account : Address) : coin.share owner account denom = 0 :=
  if_neg fun hboth => h hboth.2

theorem Coin.share_nonneg (coin : Coin) (owner account : Address) (d : Denom) :
    0 ≤ coin.share owner account d := by
  rw [share]
  split
  · exact Int.natCast_nonneg _
  · exact Int.le_refl 0

/-- What goes to an account is all there, and nothing is anywhere else. -/
theorem Coin.share_eq (coin : Coin) (owner account : Address) (denom : Denom) :
    coin.share owner account denom = if account = owner then coin.worth denom else 0 := by
  by_cases h : account = owner
  · simp [share, worth, h]
  · simp [share, h]

@[simp]
theorem Coin.worth_self (coin : Coin) : coin.worth coin.denom = coin.amount :=
  if_pos rfl

theorem Coin.worth_of_ne {coin : Coin} {denom : Denom} (h : denom ≠ coin.denom) :
    coin.worth denom = 0 :=
  if_neg h

/-! ## Effects of the operations -/

namespace Ledger

variable {β : Type} [Ledger β] [LawfulLedger β] {b c : β}

omit [Ledger β] [LawfulLedger β] in
theorem sub?_eq_some_iff {a n m : Amount} : a.sub? n = some m ↔ n ≤ a ∧ m = a - n := by
  rw [Amount.sub?]
  split
  · rename_i h
    simp [h, eq_comm]
  · rename_i h
    simp [h]

theorem balance_credit (b : β) (owner : Address) (coin : Coin) (account : Address)
    (denom : Denom) :
    (balance (credit b owner coin) account denom : Int) =
      balance b account denom + coin.share owner account denom := by
  rw [credit, Coin.share, LawfulLedger.balance_setBalance]
  by_cases h : account = owner ∧ denom = coin.denom
  · obtain ⟨rfl, rfl⟩ := h
    simp
  · simp [h]

omit [LawfulLedger β] in
/-- A payment goes through if the payer has the coin, and it moves the coin. -/
theorem send_eq_ok_iff {source target : Address} {coin : Coin} :
    (send source target coin).outcome b = .ok c ↔
      coin.amount ≤ balance b source coin.denom ∧
        c = if coin.isZero then b else
          credit (setBalance b source coin.denom (balance b source coin.denom - coin.amount))
            target coin := by
  rw [Attempt.outcome_of_settled (send_eq_settled ..)]
  by_cases hzero : coin.isZero
  · have hamount := Coin.amount_of_isZero hzero
    simp [hzero, hamount, eq_comm]
  · simp only [hzero]
    cases hsub : (balance b source coin.denom).sub? coin.amount with
    | none =>
        have hlt : ¬ coin.amount ≤ balance b source coin.denom := by
          intro hle
          rw [Amount.sub?, if_pos hle] at hsub
          cases hsub
        simp [hlt]
    | some remaining =>
        obtain ⟨hle, rfl⟩ := sub?_eq_some_iff.1 hsub
        simp [hle, eq_comm]

theorem balance_of_send {source target : Address} {coin : Coin}
    (h : (send source target coin).outcome b = .ok c) (account : Address) (denom : Denom) :
    (balance c account denom : Int) = balance b account denom +
      (coin.share target account denom - coin.share source account denom) := by
  obtain ⟨hle, rfl⟩ := send_eq_ok_iff.1 h
  by_cases hzero : coin.isZero
  · have hamount := Coin.amount_of_isZero hzero
    simp [hzero, Coin.share, hamount]
  · simp only [hzero, Bool.false_eq_true, if_false]
    rw [balance_credit, LawfulLedger.balance_setBalance]
    by_cases hs : account = source ∧ denom = coin.denom
    · obtain ⟨rfl, rfl⟩ := hs
      have hle := Int.ofNat_le.2 hle
      simp only [and_self, if_true, Coin.share_self]
      omega
    · simp [Coin.share, hs]

theorem supply_of_send {source target : Address} {coin : Coin}
    (h : (send source target coin).outcome b = .ok c) (denom : Denom) :
    supply c denom = supply b denom := by
  obtain ⟨-, rfl⟩ := send_eq_ok_iff.1 h
  by_cases hzero : coin.isZero
  · simp [hzero]
  · simp [hzero, credit]

theorem permissions_of_send {source target : Address} {coin : Coin}
    (h : (send source target coin).outcome b = .ok c) (name : String) :
    permissions c name = permissions b name := by
  obtain ⟨-, rfl⟩ := send_eq_ok_iff.1 h
  by_cases hzero : coin.isZero
  · simp [hzero]
  · simp [hzero, credit]

/-- Minting is refused only to a module that may not mint. -/
theorem mint_eq_ok_iff {name : String} {coin : Coin} :
    (mint name coin).outcome b = .ok c ↔
      (permissions b name).minter = true ∧
        c = if coin.isZero then b else
          setSupply (credit b (.ofModule name) coin) coin.denom
            (supply b coin.denom + coin.amount) := by
  rw [Attempt.outcome_of_settled (mint_eq_settled ..)]
  cases hminter : (permissions b name).minter with
  | false => simp
  | true =>
      by_cases hzero : coin.isZero
      · simp [hzero, eq_comm]
      · simp [hzero, eq_comm, credit]

omit [LawfulLedger β] in
/-- Burning is refused to a module that may not burn or does not have the coin. -/
theorem burn_eq_ok_iff {name : String} {coin : Coin} :
    (burn name coin).outcome b = .ok c ↔
      (permissions b name).burner = true ∧
        coin.amount ≤ balance b (.ofModule name) coin.denom ∧
        coin.amount ≤ supply b coin.denom ∧
        c = if coin.isZero then b else
          setSupply (setBalance b (.ofModule name) coin.denom
            (balance b (.ofModule name) coin.denom - coin.amount)) coin.denom
            (supply b coin.denom - coin.amount) := by
  rw [Attempt.outcome_of_settled (burn_eq_settled ..)]
  cases hburner : (permissions b name).burner with
  | false => simp
  | true =>
      by_cases hzero : coin.isZero
      · have hamount := Coin.amount_of_isZero hzero
        simp [hzero, hamount, eq_comm]
      · simp only [hzero]
        by_cases hheld : coin.amount ≤ balance b (.ofModule name) coin.denom
        · by_cases hsupply : coin.amount ≤ supply b coin.denom
          · simp [Amount.sub?, hheld, hsupply, eq_comm]
          · simp [Amount.sub?, hheld, hsupply]
        · simp [Amount.sub?, hheld]

end Ledger

/-! ## Postings -/

/-- One operation in a journal. -/
inductive Posting where
  | pay (source target : Address) (coin : Coin)
  | mint (moduleName : String) (coin : Coin)
  | burn (moduleName : String) (coin : Coin)
deriving DecidableEq

namespace Posting

variable {β : Type} [Ledger β]

/-- The operation that a posting stands for. -/
def operation : Posting → LedgerOperation β Unit
  | .pay source target coin => Ledger.send source target coin
  | .mint name coin => Ledger.mint name coin
  | .burn name coin => Ledger.burn name coin

instance (j : Posting) : (j.operation : LedgerOperation β Unit).Atomic := by
  cases j with
  | pay source target coin => exact inferInstanceAs (Ledger.send source target coin).Atomic
  | mint name coin => exact inferInstanceAs (Ledger.mint name coin).Atomic
  | burn name coin => exact inferInstanceAs (Ledger.burn name coin).Atomic

/-- The ledger after a posting, or why the posting is refused. -/
def post (b : β) (j : Posting) : Except LedgerError β :=
  j.operation.outcome b

/-- What the posting adds to a balance. -/
def change : Posting → Address → Denom → Int
  | .pay source target coin, account, denom =>
      coin.share target account denom - coin.share source account denom
  | .mint name coin, account, denom => coin.share (.ofModule name) account denom
  | .burn name coin, account, denom => -coin.share (.ofModule name) account denom

/-- What the posting adds to a supply. -/
def issue : Posting → Denom → Int
  | .pay _ _ _, _ => 0
  | .mint _ coin, denom => coin.worth denom
  | .burn _ coin, denom => -coin.worth denom

/-- The posting that takes this one back. -/
def inverse : Posting → Posting
  | .pay source target coin => .pay target source coin
  | .mint name coin => .burn name coin
  | .burn name coin => .mint name coin

/-- Whether the module that mints or burns may do both. -/
def Permitted (permissions : String → ModulePermissions) : Posting → Prop
  | .pay _ _ _ => True
  | .mint name _ => permissions name = ⟨true, true⟩
  | .burn name _ => permissions name = ⟨true, true⟩

/-- Whether no coin of the posting goes to the account or comes from it. -/
def Avoids (account : Address) : Posting → Prop
  | .pay source target _ => source ≠ account ∧ target ≠ account
  | .mint name _ => .ofModule name ≠ account
  | .burn name _ => .ofModule name ≠ account

/-- Whether the ledger has what the posting needs. -/
def Covered (b : β) : Posting → Prop
  | .pay source _ coin => coin.amount ≤ balance b source coin.denom
  | .mint name _ => (permissions b name).minter = true
  | .burn name coin => (permissions b name).burner = true ∧
      coin.amount ≤ balance b (.ofModule name) coin.denom ∧ coin.amount ≤ supply b coin.denom

@[simp]
theorem change_inverse (j : Posting) (account : Address) (denom : Denom) :
    j.inverse.change account denom = -j.change account denom := by
  cases j with
  | pay source target coin => simp only [inverse, change]; omega
  | mint name coin => rfl
  | burn name coin => simp [inverse, change]

@[simp]
theorem issue_inverse (j : Posting) (denom : Denom) : j.inverse.issue denom = -j.issue denom := by
  cases j with
  | pay source target coin => rfl
  | mint name coin => rfl
  | burn name coin => simp [inverse, issue]

/-- A posting adds nothing to the balances of an account that it avoids. -/
theorem change_of_avoids {j : Posting} {account : Address} (h : j.Avoids account) (denom : Denom) :
    j.change account denom = 0 := by
  cases j with
  | pay source target coin =>
      simp [change, Coin.share_of_ne (Ne.symm h.1), Coin.share_of_ne (Ne.symm h.2)]
  | mint name coin => simp [change, Coin.share_of_ne (Ne.symm h)]
  | burn name coin => simp [change, Coin.share_of_ne (Ne.symm h)]

variable [LawfulLedger β] {b c : β}

/-- A posting is refused exactly when the ledger does not cover it. -/
theorem exists_post_iff (j : Posting) : (∃ c, j.post b = .ok c) ↔ j.Covered b := by
  cases j with
  | pay source target coin => simp [post, operation, Ledger.send_eq_ok_iff, Covered]
  | mint name coin => simp [post, operation, Ledger.mint_eq_ok_iff, Covered]
  | burn name coin => simp [post, operation, Ledger.burn_eq_ok_iff, Covered]

theorem balance_post {j : Posting} (h : j.post b = .ok c) (account : Address) (denom : Denom) :
    (balance c account denom : Int) = balance b account denom + j.change account denom := by
  cases j with
  | pay source target coin => exact Ledger.balance_of_send h account denom
  | mint name coin =>
      obtain ⟨-, rfl⟩ := Ledger.mint_eq_ok_iff.1 h
      by_cases hzero : coin.isZero
      · have hamount := Coin.amount_of_isZero hzero
        simp [hzero, change, Coin.share, hamount]
      · simp [hzero, change, Ledger.balance_credit]
  | burn name coin =>
      obtain ⟨-, hheld, -, rfl⟩ := Ledger.burn_eq_ok_iff.1 h
      by_cases hzero : coin.isZero
      · have hamount := Coin.amount_of_isZero hzero
        simp [hzero, change, Coin.share, hamount]
      · by_cases hm : account = .ofModule name ∧ denom = coin.denom
        · obtain ⟨rfl, rfl⟩ := hm
          have hheld := Int.ofNat_le.2 hheld
          simp [hzero, change]
          omega
        · simp [hzero, change, Coin.share, hm]

theorem supply_post {j : Posting} (h : j.post b = .ok c) (denom : Denom) :
    (supply c denom : Int) = supply b denom + j.issue denom := by
  cases j with
  | pay source target coin => simp [Ledger.supply_of_send h denom, issue]
  | mint name coin =>
      obtain ⟨-, rfl⟩ := Ledger.mint_eq_ok_iff.1 h
      by_cases hzero : coin.isZero
      · have hamount := Coin.amount_of_isZero hzero
        simp [hzero, issue, Coin.worth, hamount]
      · by_cases hd : denom = coin.denom
        · subst hd
          simp [hzero, issue]
        · simp [hzero, issue, Coin.worth, hd, Ledger.credit]
  | burn name coin =>
      obtain ⟨-, -, hheld, rfl⟩ := Ledger.burn_eq_ok_iff.1 h
      by_cases hzero : coin.isZero
      · have hamount := Coin.amount_of_isZero hzero
        simp [hzero, issue, Coin.worth, hamount]
      · by_cases hd : denom = coin.denom
        · subst hd
          have hheld := Int.ofNat_le.2 hheld
          simp [hzero, issue]
          omega
        · simp [hzero, issue, Coin.worth, hd]

theorem permissions_post {j : Posting} (h : j.post b = .ok c) (name : String) :
    permissions c name = permissions b name := by
  cases j with
  | pay source target coin => exact Ledger.permissions_of_send h name
  | mint minter coin =>
      obtain ⟨-, rfl⟩ := Ledger.mint_eq_ok_iff.1 h
      by_cases hzero : coin.isZero
      · simp [hzero]
      · simp [hzero, Ledger.credit]
  | burn burner coin =>
      obtain ⟨-, -, -, rfl⟩ := Ledger.burn_eq_ok_iff.1 h
      by_cases hzero : coin.isZero
      · simp [hzero]
      · simp [hzero]

/-- What a posting brought about covers its inverse. -/
theorem covered_inverse {j : Posting} (h : j.post b = .ok c) (hp : j.Permitted (permissions b)) :
    j.inverse.Covered c := by
  have hcovered := (exists_post_iff j).1 ⟨c, h⟩
  have hbalance := balance_post h
  have hsupply := supply_post h
  have hpermissions := permissions_post h
  cases j with
  | pay source target coin =>
      -- who was paid can pay it back, even if it is the payer
      have htarget := hbalance target coin.denom
      have hsource := Int.ofNat_le.2 hcovered
      simp only [change, Coin.share_self] at htarget
      apply Int.ofNat_le.1
      by_cases hself : target = source
      · subst hself
        simp only [Coin.share_self] at htarget
        omega
      · rw [Coin.share_of_ne hself] at htarget
        omega
  | mint name coin =>
      have hheld := hbalance (.ofModule name) coin.denom
      have hissued := hsupply coin.denom
      simp only [change, issue, Coin.share_self, Coin.worth_self] at hheld hissued
      refine ⟨?_, ?_, ?_⟩
      · rw [hpermissions, show permissions b name = ⟨true, true⟩ from hp]
      · apply Int.ofNat_le.1
        omega
      · apply Int.ofNat_le.1
        omega
  | burn name coin =>
      show (permissions c name).minter = true
      rw [hpermissions, show permissions b name = ⟨true, true⟩ from hp]

end Posting

/-- A posting commutes with maps of ledgers. -/
theorem Posting.map_post {β γ : Type} [Ledger β] [Ledger γ] {f : β → γ} (hf : Ledger.Morphism f)
    (j : Posting) (b : β) : (j.post b).map f = j.post (f b) := by
  cases j with
  | pay source target coin => exact hf.map_send b source target coin
  | mint name coin => exact hf.map_mint b name coin
  | burn name coin => exact hf.map_burn b name coin

/-- Views that show the same numbers are equal. -/
theorem LedgerView.eq_of_numbers {v w : LedgerView}
    (hbalance : ∀ account denom,
      (Ledger.balance v account denom : Int) = Ledger.balance w account denom)
    (hsupply : ∀ denom, (Ledger.supply v denom : Int) = Ledger.supply w denom)
    (hpermissions : ∀ name, Ledger.permissions v name = Ledger.permissions w name) : v = w := by
  refine LedgerView.ext ?_ ?_ (funext hpermissions)
  · exact funext fun account => funext fun denom => Int.ofNat.inj (hbalance account denom)
  · exact funext fun denom => Int.ofNat.inj (hsupply denom)

/-- Posting and then taking back gives the ledger before. -/
theorem Posting.post_inverse {j : Posting} {v w : LedgerView} (h : j.post v = .ok w)
    (hp : j.Permitted (permissions v)) : j.inverse.post w = .ok v := by
  -- the inverse goes through, and what it leads to shows the numbers of before
  obtain ⟨u, hu⟩ := (exists_post_iff j.inverse).2 (covered_inverse h hp)
  have huv : u = v := by
    apply LedgerView.eq_of_numbers
    · intro account denom
      rw [balance_post hu, balance_post h, change_inverse]
      omega
    · intro denom
      rw [supply_post hu, supply_post h, issue_inverse]
      omega
    · intro name
      rw [permissions_post hu, permissions_post h]
  rw [hu, huv]

/-! ## Journals -/

/-- Postings in the order they are made. -/
abbrev Journal := List Posting

namespace Journal

/-- The ledger after all postings of a journal. -/
def post {β : Type} [Ledger β] (b : β) : Journal → Except LedgerError β
  | [] => .ok b
  | j :: js =>
      match j.post b with
      | .ok c => post c js
      | .error error => .error error

/-- What the journal adds to a balance. -/
def change : Journal → Address → Denom → Int
  | [], _, _ => 0
  | j :: js, account, denom => j.change account denom + change js account denom

/-- What the journal adds to a supply. -/
def issue : Journal → Denom → Int
  | [], _ => 0
  | j :: js, denom => j.issue denom + issue js denom

/-- The journal that takes this one back. -/
def inverse : Journal → Journal
  | [] => []
  | j :: js => inverse js ++ [j.inverse]

variable {β : Type} [Ledger β] {b c : β}

@[simp]
theorem post_nil (b : β) : post b [] = .ok b :=
  rfl

theorem post_cons_eq_ok_iff {j : Posting} {js : Journal} :
    post b (j :: js) = .ok c ↔ ∃ d, j.post b = .ok d ∧ post d js = .ok c := by
  rw [post]
  cases j.post b with
  | ok d => simp
  | error error => simp

theorem post_append_eq_ok_iff {js ks : Journal} :
    post b (js ++ ks) = .ok c ↔ ∃ d, post b js = .ok d ∧ post d ks = .ok c := by
  induction js generalizing b with
  | nil => simp
  | cons j js ih =>
      simp only [List.cons_append, post_cons_eq_ok_iff, ih]
      constructor
      · rintro ⟨d, hd, e, he, hc⟩
        exact ⟨e, ⟨d, hd, he⟩, hc⟩
      · rintro ⟨e, ⟨d, hd, he⟩, hc⟩
        exact ⟨d, hd, e, he, hc⟩

theorem change_append (js ks : Journal) (account : Address) (denom : Denom) :
    change (js ++ ks) account denom = change js account denom + change ks account denom := by
  induction js with
  | nil => simp [change]
  | cons j js ih =>
      simp only [List.cons_append, change, ih]
      omega

theorem change_of_avoids {js : Journal} {account : Address} (h : ∀ j ∈ js, j.Avoids account)
    (denom : Denom) : change js account denom = 0 := by
  induction js with
  | nil => rfl
  | cons j js ih =>
      rw [change, Posting.change_of_avoids (h j List.mem_cons_self),
        ih fun k hk => h k (List.mem_cons_of_mem _ hk)]
      rfl

theorem issue_append (js ks : Journal) (denom : Denom) :
    issue (js ++ ks) denom = issue js denom + issue ks denom := by
  induction js with
  | nil => simp [issue]
  | cons j js ih =>
      simp only [List.cons_append, issue, ih]
      omega

theorem inverse_append (js ks : Journal) :
    inverse (js ++ ks) = inverse ks ++ inverse js := by
  induction js with
  | nil => simp [inverse]
  | cons j js ih => simp [inverse, ih]

/-- The inverse takes away what the journal adds. -/
theorem change_inverse (js : Journal) (account : Address) (denom : Denom) :
    change (inverse js) account denom = -change js account denom := by
  induction js with
  | nil => rfl
  | cons j js ih =>
      simp only [inverse, change_append, change, ih, Posting.change_inverse]
      omega

theorem issue_inverse (js : Journal) (denom : Denom) :
    issue (inverse js) denom = -issue js denom := by
  induction js with
  | nil => rfl
  | cons j js ih =>
      simp only [inverse, issue_append, issue, ih, Posting.issue_inverse]
      omega

section Lawful

variable [LawfulLedger β]

/-- **The effect of a journal on balances.** -/
theorem balance_post {js : Journal} (h : post b js = .ok c) (account : Address) (denom : Denom) :
    (balance c account denom : Int) = balance b account denom + change js account denom := by
  induction js generalizing b with
  | nil =>
      cases h
      simp [change]
  | cons j js ih =>
      obtain ⟨d, hd, hc⟩ := post_cons_eq_ok_iff.1 h
      rw [ih hc, Posting.balance_post hd, change]
      omega

/-- **The effect of a journal on supplies.** -/
theorem supply_post {js : Journal} (h : post b js = .ok c) (denom : Denom) :
    (supply c denom : Int) = supply b denom + issue js denom := by
  induction js generalizing b with
  | nil =>
      cases h
      simp [issue]
  | cons j js ih =>
      obtain ⟨d, hd, hc⟩ := post_cons_eq_ok_iff.1 h
      rw [ih hc, Posting.supply_post hd, issue]
      omega

theorem permissions_post {js : Journal} (h : post b js = .ok c) (name : String) :
    permissions c name = permissions b name := by
  induction js generalizing b with
  | nil =>
      cases h
      rfl
  | cons j js ih =>
      obtain ⟨d, hd, hc⟩ := post_cons_eq_ok_iff.1 h
      rw [ih hc, Posting.permissions_post hd]

end Lawful

/-! ## Journals and views -/

/-- A journal commutes with maps of ledgers. -/
theorem map_post {γ : Type} [Ledger γ] {f : β → γ} (hf : Ledger.Morphism f) (js : Journal)
    (b : β) : (post b js).map f = post (f b) js := by
  induction js generalizing b with
  | nil => rfl
  | cons j js ih =>
      have hj := j.map_post hf b
      rw [post, post]
      cases hb : j.post b with
      | error error =>
          rw [hb] at hj
          rw [← hj]
          rfl
      | ok d =>
          rw [hb] at hj
          rw [← hj]
          exact ih d

theorem view_post [LawfulLedger β] (js : Journal) (b : β) :
    (post b js).map view = post (view b) js :=
  map_post Ledger.morphism_view js b

/-- What a lawful ledger does, its view does. -/
theorem post_view_of_post [LawfulLedger β] {js : Journal} (h : post b js = .ok c) :
    post (view b) js = .ok (view c) := by
  rw [← view_post, h]
  rfl

/-- Permissions are the same in all that a ledger may show. -/
theorem permissions_of_view {js : Journal} (h : post (view b) js = .ok (view c)) :
    permissions c = permissions b := by
  funext name
  exact permissions_post (b := view b) (c := view c) h name

/-- What the view of a lawful ledger does, the ledger does. -/
theorem exists_post_of_view [LawfulLedger β] {js : Journal} {v : LedgerView}
    (h : post (view b) js = .ok v) : ∃ c, post b js = .ok c ∧ view c = v := by
  rw [← view_post] at h
  cases hb : post b js with
  | error error =>
      rw [hb] at h
      cases h
  | ok c =>
      rw [hb] at h
      cases h
      exact ⟨c, rfl, rfl⟩

/-- What a committed branch did, the view of the ledger does. -/
theorem post_view_of_branch [LawfulLedger β] {js : Journal} {c : Branch β}
    (h : post (Branch.start b) js = .ok c) : post (view b) js = .ok (view c.commit) := by
  rw [Branch.view_commit]
  exact post_view_of_post h

/-- What the view of a ledger does, a branch of the ledger does. -/
theorem exists_branch_of_view [LawfulLedger β] {js : Journal} {v : LedgerView}
    (h : post (view b) js = .ok v) :
    ∃ c, post (Branch.start b) js = .ok c ∧ view c.commit = v := by
  obtain ⟨c, hc, hv⟩ := exists_post_of_view (b := Branch.start b) h
  exact ⟨c, hc, (Branch.view_commit c).trans hv⟩

/-- **Posting a journal and then its inverse gives the ledger before.** -/
theorem post_inverse {js : Journal} {v w : LedgerView} (h : post v js = .ok w)
    (hp : ∀ j ∈ js, j.Permitted (permissions v)) : post w (inverse js) = .ok v := by
  induction js generalizing v with
  | nil =>
      cases h
      rfl
  | cons j js ih =>
      obtain ⟨u, hu, hw⟩ := post_cons_eq_ok_iff.1 h
      have hpermissions : permissions u = permissions v := funext (Posting.permissions_post hu)
      -- the rest is taken back first, and then the posting itself
      have hback : post w (inverse js) = .ok u := by
        apply ih hw
        intro k hk
        rw [hpermissions]
        exact hp k (List.mem_cons_of_mem _ hk)
      have hlast := Posting.post_inverse hu (hp j List.mem_cons_self)
      refine post_append_eq_ok_iff.2 ⟨u, hback, ?_⟩
      exact post_cons_eq_ok_iff.2 ⟨v, hlast, rfl⟩

end Journal

end Interchain
