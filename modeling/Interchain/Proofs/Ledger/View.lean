import Interchain.Ledger.Branch
import Interchain.Ledger.Memory
import Interchain.Proofs.FiniteMap
import Interchain.Proofs.Ledger.Outcomes

/-!
# What a ledger shows

A ledger is lawful if a read answers what was written last. The stored ledger is lawful, and a
branch of a lawful ledger is. All that a user can see of a ledger is its view: balances, supplies
and permissions as functions. Operations commute with every map of ledgers that keeps what is shown
and carries over what is written (`Morphism.map_send`, `Morphism.map_mint`, `Morphism.map_burn`).
Views are ledgers themselves, and for a lawful ledger taking the view is such a map
(`morphism_view`). Opening a branch and committing it leave the view as it is (`view_start`,
`view_commit`), so what holds of views holds through any nesting of branches.
-/

set_option autoImplicit false

namespace Interchain

/-- Ledgers that answer what was written last. -/
class LawfulLedger (β : Type) [Ledger β] : Prop where
  balance_setBalance (b : β) (owner account : Address) (kind denom : Denom) (a : Amount) :
    Ledger.balance (Ledger.setBalance b owner kind a) account denom =
      if account = owner ∧ denom = kind then a else Ledger.balance b account denom
  supply_setBalance (b : β) (owner : Address) (kind denom : Denom) (a : Amount) :
    Ledger.supply (Ledger.setBalance b owner kind a) denom = Ledger.supply b denom
  permissions_setBalance (b : β) (owner : Address) (kind : Denom) (a : Amount) (name : String) :
    Ledger.permissions (Ledger.setBalance b owner kind a) name = Ledger.permissions b name
  balance_setSupply (b : β) (account : Address) (kind denom : Denom) (a : Amount) :
    Ledger.balance (Ledger.setSupply b kind a) account denom = Ledger.balance b account denom
  supply_setSupply (b : β) (kind denom : Denom) (a : Amount) :
    Ledger.supply (Ledger.setSupply b kind a) denom =
      if denom = kind then a else Ledger.supply b denom
  permissions_setSupply (b : β) (kind : Denom) (a : Amount) (name : String) :
    Ledger.permissions (Ledger.setSupply b kind a) name = Ledger.permissions b name

attribute [simp] LawfulLedger.balance_setBalance LawfulLedger.supply_setBalance
  LawfulLedger.permissions_setBalance LawfulLedger.balance_setSupply
  LawfulLedger.supply_setSupply LawfulLedger.permissions_setSupply

/-- Balances, supplies and permissions as functions. -/
@[ext]
structure LedgerView where
  balance : Address → Denom → Amount
  supply : Denom → Amount
  permissions : String → ModulePermissions

namespace LedgerView

instance : Ledger LedgerView where
  balance := balance
  setBalance v owner kind a :=
    { v with balance := fun account denom =>
        if account = owner ∧ denom = kind then a else v.balance account denom }
  supply := supply
  setSupply v kind a :=
    { v with supply := fun denom => if denom = kind then a else v.supply denom }
  permissions := permissions

instance : LawfulLedger LedgerView where
  balance_setBalance _ _ _ _ _ _ := rfl
  supply_setBalance _ _ _ _ _ := rfl
  permissions_setBalance _ _ _ _ _ := rfl
  balance_setSupply _ _ _ _ _ := rfl
  supply_setSupply _ _ _ _ := rfl
  permissions_setSupply _ _ _ _ := rfl

end LedgerView

namespace Ledger

variable {β : Type} [Ledger β]

/-- What the ledger shows. -/
def view (b : β) : LedgerView :=
  ⟨balance b, supply b, permissions b⟩

@[simp]
theorem balance_view (b : β) (account : Address) (denom : Denom) :
    balance (view b) account denom = balance b account denom :=
  rfl

@[simp]
theorem supply_view (b : β) (denom : Denom) : supply (view b) denom = supply b denom :=
  rfl

@[simp]
theorem permissions_view (b : β) (name : String) :
    permissions (view b) name = permissions b name :=
  rfl

@[simp]
theorem view_view (v : LedgerView) : view v = v :=
  rfl

variable [LawfulLedger β]

@[simp]
theorem view_setBalance (b : β) (account : Address) (denom : Denom) (a : Amount) :
    view (setBalance b account denom a) = setBalance (view b) account denom a := by
  ext
  · exact LawfulLedger.balance_setBalance b account _ denom _ a
  · exact LawfulLedger.supply_setBalance b account denom _ a
  · exact LawfulLedger.permissions_setBalance b account denom a _

@[simp]
theorem view_setSupply (b : β) (denom : Denom) (a : Amount) :
    view (setSupply b denom a) = setSupply (view b) denom a := by
  ext
  · exact LawfulLedger.balance_setSupply b _ denom _ a
  · exact LawfulLedger.supply_setSupply b denom _ a
  · exact LawfulLedger.permissions_setSupply b denom a _

end Ledger

/-! ## Operations commute with maps of ledgers -/

namespace Ledger

open Attempt (outcome_of_settled)

variable {β γ : Type} [Ledger β] [Ledger γ]

/-- A map of ledgers that keeps what is shown and carries over what is written. -/
structure Morphism (f : β → γ) : Prop where
  view_eq (b : β) : view (f b) = view b
  map_setBalance (b : β) (account : Address) (denom : Denom) (a : Amount) :
    f (setBalance b account denom a) = setBalance (f b) account denom a
  map_setSupply (b : β) (denom : Denom) (a : Amount) :
    f (setSupply b denom a) = setSupply (f b) denom a

namespace Morphism

variable {f : β → γ}

theorem balance_eq (hf : Morphism f) (b : β) (account : Address) (denom : Denom) :
    balance (f b) account denom = balance b account denom :=
  congrFun (congrFun (congrArg LedgerView.balance (hf.view_eq b)) account) denom

theorem supply_eq (hf : Morphism f) (b : β) (denom : Denom) :
    supply (f b) denom = supply b denom :=
  congrFun (congrArg LedgerView.supply (hf.view_eq b)) denom

theorem permissions_eq (hf : Morphism f) (b : β) (name : String) :
    permissions (f b) name = permissions b name :=
  congrFun (congrArg LedgerView.permissions (hf.view_eq b)) name

theorem map_credit (hf : Morphism f) (b : β) (account : Address) (coin : Coin) :
    f (credit b account coin) = credit (f b) account coin := by
  rw [credit, credit, hf.map_setBalance, hf.balance_eq]

theorem map_send (hf : Morphism f) (b : β) (source target : Address) (coin : Coin) :
    ((send source target coin).outcome b).map f = (send source target coin).outcome (f b) := by
  rw [outcome_of_settled (send_eq_settled ..), outcome_of_settled (send_eq_settled ..)]
  by_cases hzero : coin.isZero
  · simp [hzero, Except.map]
  · simp only [hzero, hf.balance_eq]
    cases (balance b source coin.denom).sub? coin.amount with
    | none => rfl
    | some remaining => simp [Except.map, hf.map_credit, hf.map_setBalance]

theorem map_mint (hf : Morphism f) (b : β) (name : String) (coin : Coin) :
    ((mint name coin).outcome b).map f = (mint name coin).outcome (f b) := by
  rw [outcome_of_settled (mint_eq_settled ..), outcome_of_settled (mint_eq_settled ..)]
  cases hminter : (permissions b name).minter with
  | false => simp [hf.permissions_eq, hminter, Except.map]
  | true =>
      by_cases hzero : coin.isZero
      · simp [hf.permissions_eq, hminter, hzero, Except.map]
      · simp only [hf.permissions_eq, hminter, hzero]
        simp [Except.map, hf.map_setSupply, ← hf.map_credit, hf.supply_eq]

theorem map_burn (hf : Morphism f) (b : β) (name : String) (coin : Coin) :
    ((burn name coin).outcome b).map f = (burn name coin).outcome (f b) := by
  rw [outcome_of_settled (burn_eq_settled ..), outcome_of_settled (burn_eq_settled ..)]
  cases hburner : (permissions b name).burner with
  | false => simp [hf.permissions_eq, hburner, Except.map]
  | true =>
      by_cases hzero : coin.isZero
      · simp [hf.permissions_eq, hburner, hzero, Except.map]
      · simp only [hf.permissions_eq, hburner, hf.balance_eq, hf.supply_eq, hzero]
        cases (balance b (.ofModule name) coin.denom).sub? coin.amount with
        | none => rfl
        | some remaining =>
            cases (supply b coin.denom).sub? coin.amount with
            | none => rfl
            | some left => simp [Except.map, hf.map_setSupply, hf.map_setBalance]

end Morphism

/-- **Operations commute with taking the view.** -/
theorem morphism_view [LawfulLedger β] : Morphism (view : β → LedgerView) where
  view_eq _ := rfl
  map_setBalance := view_setBalance
  map_setSupply := view_setSupply

end Ledger

/-! ## The stored ledger -/

namespace FiniteMap

variable {κ : Type} [Ord κ] [Std.TransOrd κ] [Std.LawfulEqOrd κ] [DecidableEq κ]

/-- An amount that was set is read back, and no other changes. -/
@[simp]
theorem amount_setAmount (m : FiniteMap κ Amount) (k l : κ) (a : Amount) :
    (m.setAmount k a).amount l = if l = k then a else m.amount l := by
  unfold setAmount amount
  by_cases ha : a = 0
  · subst ha
    by_cases hl : l = k
    · simp [hl]
    · simp [hl]
  · by_cases hl : l = k
    · simp [ha, hl]
    · simp [ha, hl]

end FiniteMap

instance : LawfulLedger MemoryLedger where
  balance_setBalance b owner account kind denom a := by
    simp [Ledger.balance, Ledger.setBalance]
  supply_setBalance _ _ _ _ _ := rfl
  permissions_setBalance _ _ _ _ _ := rfl
  balance_setSupply _ _ _ _ _ := rfl
  supply_setSupply b kind denom a := by
    simp [Ledger.supply, Ledger.setSupply]
  permissions_setSupply _ _ _ _ := rfl

/-! ## Branches -/

namespace Branch

variable {β : Type} [Ledger β]

theorem balance_eq (b : Branch β) (account : Address) (denom : Denom) :
    Ledger.balance b account denom =
      (b.balances.get? ⟨account, denom⟩).getD (Ledger.balance b.parent account denom) :=
  rfl

theorem supply_eq (b : Branch β) (denom : Denom) :
    Ledger.supply b denom = (b.supplies.get? denom).getD (Ledger.supply b.parent denom) :=
  rfl

/-- A branch without writes shows what its parent shows. -/
@[simp]
theorem view_start (b : β) : Ledger.view (start b) = Ledger.view b :=
  rfl

/-- A branch is lawful over any parent, since it reads its own writes. -/
instance : LawfulLedger (Branch β) where
  balance_setBalance b owner account kind denom a := by
    simp only [balance_eq, Ledger.setBalance, FiniteMap.get?_insert, Holding.mk.injEq]
    by_cases h : account = owner ∧ denom = kind
    · simp [h]
    · simp [h]
  supply_setBalance _ _ _ _ _ := rfl
  permissions_setBalance _ _ _ _ _ := rfl
  balance_setSupply _ _ _ _ _ := rfl
  supply_setSupply b kind denom a := by
    simp only [supply_eq, Ledger.setSupply, FiniteMap.get?_insert]
    by_cases h : denom = kind
    · simp [h]
    · simp [h]
  permissions_setSupply _ _ _ _ := rfl

variable [LawfulLedger β]

/-- Writing the entries of an ascending list of balances shows each under its key. -/
theorem view_foldl_setBalance (es : List (Holding × Amount)) (b : β)
    (h : es.Pairwise fun e f => compare e.1 f.1 = .lt) :
    Ledger.view (es.foldl (fun p e => Ledger.setBalance p e.1.account e.1.denom e.2) b) =
      { Ledger.view b with
        balance := fun account denom =>
          (FiniteMap.lookupEntry ⟨account, denom⟩ es).getD (Ledger.balance b account denom) } := by
  induction es generalizing b with
  | nil => rfl
  | cons e es ih =>
      have hcons := List.pairwise_cons.1 h
      rw [List.foldl_cons, ih _ hcons.2]
      ext account denom
      · simp only [LawfulLedger.balance_setBalance, FiniteMap.lookupEntry]
        by_cases he : account = e.1.account ∧ denom = e.1.denom
        · obtain ⟨rfl, rfl⟩ := he
          -- no later entry writes to this key
          simp [FiniteMap.lookupEntry_of_ascending h]
        · have hne : (⟨account, denom⟩ : Holding) ≠ e.1 := fun heq => he (by simp [← heq])
          simp [he, hne]
      · exact LawfulLedger.supply_setBalance b _ _ _ _
      · exact LawfulLedger.permissions_setBalance b _ _ _ _

/-- Writing the entries of an ascending list of supplies shows each under its key. -/
theorem view_foldl_setSupply (es : List (Denom × Amount)) (b : β)
    (h : es.Pairwise fun e f => compare e.1 f.1 = .lt) :
    Ledger.view (es.foldl (fun p e => Ledger.setSupply p e.1 e.2) b) =
      { Ledger.view b with
        supply := fun denom =>
          (FiniteMap.lookupEntry denom es).getD (Ledger.supply b denom) } := by
  induction es generalizing b with
  | nil => rfl
  | cons e es ih =>
      have hcons := List.pairwise_cons.1 h
      rw [List.foldl_cons, ih _ hcons.2]
      ext denom
      · exact LawfulLedger.balance_setSupply b _ _ _ _
      · simp only [LawfulLedger.supply_setSupply, FiniteMap.lookupEntry]
        by_cases he : denom = e.1
        · subst he
          simp [FiniteMap.lookupEntry_of_ascending h]
        · simp [he]
      · exact LawfulLedger.permissions_setSupply b _ _ _

/-- A committed branch shows what the branch showed. -/
@[simp]
theorem view_commit (b : Branch β) : Ledger.view b.commit = Ledger.view b := by
  have hbalances := view_foldl_setBalance b.balances.toList b.parent b.balances.ascending
  rw [commit, view_foldl_setSupply _ _ b.supplies.ascending, hbalances]
  refine LedgerView.ext rfl (funext fun denom => ?_) rfl
  -- writing the balances left the supplies alone
  have hsupply := congrFun (congrArg LedgerView.supply hbalances) denom
  exact congrArg ((b.supplies.get? denom).getD ·) hsupply

end Branch

end Interchain
