import Interchain.Proofs.Ledger.Journal

/-!
# Ledgers without a memory of their writes

A ledger is canonical if it keeps no trace of how it came about: a write hides the earlier one to
the same place, and writes to different places may change places. The stored ledger is canonical,
and so is a branch of any ledger. To commit a branch of a canonical ledger is then a map of ledgers
(`Branch.morphism_commit`): what was done to the branch might as well have been done to its parent,
and the very same ledger comes out, not only one that shows the same (`Journal.post_of_branch`).

Operations are made of writes alone, so what the two writes keep is kept by every operation
(`Stable.post`).
-/

set_option autoImplicit false

namespace Interchain

open Ledger

/-! ## Writes to finite maps -/

namespace FiniteMap

section Insert

variable {κ α : Type} [Ord κ] [Std.TransOrd κ] [Std.LawfulEqOrd κ] [DecidableEq κ]

theorem insert_insert_self (m : FiniteMap κ α) (k : κ) (a b : α) :
    (m.insert k a).insert k b = m.insert k b := by
  ext l : 1
  simp only [get?_insert]
  split
  · rfl
  · rfl

theorem insert_comm (m : FiniteMap κ α) {k l : κ} (h : k ≠ l) (a b : α) :
    (m.insert k a).insert l b = (m.insert l b).insert k a := by
  ext i : 1
  simp only [get?_insert]
  by_cases hk : i = k
  · simp [hk, h]
  · simp [hk]

end Insert

section SetAmount

variable {κ : Type} [Ord κ] [Std.TransOrd κ] [Std.LawfulEqOrd κ] [DecidableEq κ]

/-- A zero is not stored, and any other amount is found where it was set. -/
theorem get?_setAmount (m : FiniteMap κ Amount) (k l : κ) (a : Amount) :
    (m.setAmount k a).get? l = if l = k then (if a = 0 then none else some a) else m.get? l := by
  rw [setAmount]
  by_cases ha : a = 0
  · simp [ha]
  · simp [ha]

theorem setAmount_setAmount_self (m : FiniteMap κ Amount) (k : κ) (a b : Amount) :
    (m.setAmount k a).setAmount k b = m.setAmount k b := by
  ext l : 1
  simp only [get?_setAmount]
  split
  · rfl
  · rfl

theorem setAmount_comm (m : FiniteMap κ Amount) {k l : κ} (h : k ≠ l) (a b : Amount) :
    (m.setAmount k a).setAmount l b = (m.setAmount l b).setAmount k a := by
  ext i : 1
  simp only [get?_setAmount]
  by_cases hk : i = k
  · simp [hk, h]
  · simp [hk]

end SetAmount

section Fold

variable {κ α β : Type} [Ord κ] {put : β → κ → α → β}

omit [Ord κ] in
/-- A write changes places with writes to other keys. -/
theorem foldl_put_comm (hcomm : ∀ b k l v w, k ≠ l → put (put b k v) l w = put (put b l w) k v)
    (k : κ) (v : α) {es : List (κ × α)} (hne : ∀ e ∈ es, k ≠ e.1) (b : β) :
    es.foldl (fun b e => put b e.1 e.2) (put b k v) =
      put (es.foldl (fun b e => put b e.1 e.2) b) k v := by
  induction es generalizing b with
  | nil => rfl
  | cons e es ih =>
      rw [List.foldl_cons, List.foldl_cons, hcomm _ _ _ _ _ (hne e List.mem_cons_self)]
      exact ih (fun f hf => hne f (List.mem_cons_of_mem _ hf)) _

variable (put) in
/-- Writing the entries of a map with one more is writing the entries and then that one. -/
theorem foldl_insertEntry [Std.LawfulEqOrd κ] [Std.TransOrd κ]
    (hself : ∀ b k v w, put (put b k v) k w = put b k w)
    (hcomm : ∀ b k l v w, k ≠ l → put (put b k v) l w = put (put b l w) k v) (k : κ) (v : α)
    {es : List (κ × α)} (h : es.Pairwise fun e f => compare e.1 f.1 = .lt) (b : β) :
    (insertEntry k v es).foldl (fun b e => put b e.1 e.2) b =
      put (es.foldl (fun b e => put b e.1 e.2) b) k v := by
  have hlt : ∀ {k l : κ}, compare k l = .lt → k ≠ l := by
    rintro k _ hk rfl
    simp [Std.ReflCmp.compare_self] at hk
  induction es generalizing b with
  | nil => rfl
  | cons e es ih =>
      have hcons := List.pairwise_cons.1 h
      rw [insertEntry]
      cases hk : compare k e.1 with
      | lt =>
          -- the new entry is written first, and no other has its key
          refine foldl_put_comm hcomm k v (fun f hf => ?_) b
          rcases List.mem_cons.1 hf with rfl | hf
          · exact hlt hk
          · exact hlt (Std.TransCmp.lt_trans hk (hcons.1 f hf))
      | eq =>
          -- the entry that is replaced would have been overwritten
          have hk : k = e.1 := Std.LawfulEqOrd.eq_of_compare hk
          subst hk
          rw [List.foldl_cons, List.foldl_cons, ← foldl_put_comm hcomm, hself]
          exact fun f hf => hlt (hcons.1 f hf)
      | gt => exact ih hcons.2 _

end Fold

end FiniteMap

/-! ## Canonical ledgers -/

/-- Ledgers that keep no trace of how they came about. -/
class CanonicalLedger (β : Type) [Ledger β] : Prop extends LawfulLedger β where
  setBalance_setBalance_self (b : β) (account : Address) (denom : Denom) (a a' : Amount) :
    setBalance (setBalance b account denom a) account denom a' = setBalance b account denom a'
  setBalance_comm (b : β) (account account' : Address) (denom denom' : Denom) (a a' : Amount)
    (h : Holding.mk account denom ≠ ⟨account', denom'⟩) :
    setBalance (setBalance b account denom a) account' denom' a' =
      setBalance (setBalance b account' denom' a') account denom a
  setSupply_setSupply_self (b : β) (denom : Denom) (a a' : Amount) :
    setSupply (setSupply b denom a) denom a' = setSupply b denom a'
  setSupply_comm (b : β) (denom denom' : Denom) (a a' : Amount) (h : denom ≠ denom') :
    setSupply (setSupply b denom a) denom' a' = setSupply (setSupply b denom' a') denom a
  setSupply_setBalance (b : β) (account : Address) (denom kind : Denom) (a a' : Amount) :
    setSupply (setBalance b account denom a) kind a' =
      setBalance (setSupply b kind a') account denom a

instance : CanonicalLedger MemoryLedger where
  setBalance_setBalance_self b _ _ _ _ :=
    congrArg (fun m => { b with balances := m }) (FiniteMap.setAmount_setAmount_self _ _ _ _)
  setBalance_comm b _ _ _ _ _ _ h :=
    congrArg (fun m => { b with balances := m }) (FiniteMap.setAmount_comm _ h _ _)
  setSupply_setSupply_self b _ _ _ :=
    congrArg (fun m => { b with supplies := m }) (FiniteMap.setAmount_setAmount_self _ _ _ _)
  setSupply_comm b _ _ _ _ h :=
    congrArg (fun m => { b with supplies := m }) (FiniteMap.setAmount_comm _ h _ _)
  setSupply_setBalance _ _ _ _ _ _ := rfl

namespace Branch

variable {β : Type} [Ledger β]

/-- A branch is canonical over any parent, since it buffers its writes in maps. -/
instance : CanonicalLedger (Branch β) where
  setBalance_setBalance_self b _ _ _ _ :=
    congrArg (fun m => { b with balances := m }) (FiniteMap.insert_insert_self _ _ _ _)
  setBalance_comm b _ _ _ _ _ _ h :=
    congrArg (fun m => { b with balances := m }) (FiniteMap.insert_comm _ h _ _)
  setSupply_setSupply_self b _ _ _ :=
    congrArg (fun m => { b with supplies := m }) (FiniteMap.insert_insert_self _ _ _ _)
  setSupply_comm b _ _ _ _ h :=
    congrArg (fun m => { b with supplies := m }) (FiniteMap.insert_comm _ h _ _)
  setSupply_setBalance _ _ _ _ _ _ := rfl

/-! ## Committing as a map of ledgers -/

/-- An empty branch leaves its parent as it is. -/
@[simp]
theorem commit_start (b : β) : (start b).commit = b :=
  rfl

variable [CanonicalLedger β]

/-- A balance that is set before supplies are written may be set after them. -/
theorem foldl_setSupply_setBalance (es : List (Denom × Amount)) (b : β) (account : Address)
    (denom : Denom) (a : Amount) :
    es.foldl (fun p e => setSupply p e.1 e.2) (setBalance b account denom a) =
      setBalance (es.foldl (fun p e => setSupply p e.1 e.2) b) account denom a := by
  induction es generalizing b with
  | nil => rfl
  | cons e es ih =>
      rw [List.foldl_cons, List.foldl_cons, CanonicalLedger.setSupply_setBalance]
      exact ih _

theorem commit_setBalance (b : Branch β) (account : Address) (denom : Denom) (a : Amount) :
    (setBalance b account denom a).commit = setBalance b.commit account denom a := by
  have hbalances : (setBalance b account denom a).balances.toList.foldl
      (fun p e => setBalance p e.1.account e.1.denom e.2) b.parent = setBalance
        (b.balances.toList.foldl (fun p e => setBalance p e.1.account e.1.denom e.2) b.parent)
        account denom a :=
    FiniteMap.foldl_insertEntry (fun p h a => setBalance p h.account h.denom a)
      (fun p k v w => CanonicalLedger.setBalance_setBalance_self p k.account k.denom v w)
      (fun p _ _ v w h => CanonicalLedger.setBalance_comm p _ _ _ _ v w h) ⟨account, denom⟩ a
      b.balances.ascending b.parent
  show (setBalance b account denom a).supplies.toList.foldl _ _ = _
  rw [show (setBalance b account denom a).parent = b.parent from rfl, hbalances]
  exact foldl_setSupply_setBalance _ _ _ _ _

theorem commit_setSupply (b : Branch β) (denom : Denom) (a : Amount) :
    (setSupply b denom a).commit = setSupply b.commit denom a :=
  FiniteMap.foldl_insertEntry (fun p denom a => setSupply p denom a)
    (fun p k v w => CanonicalLedger.setSupply_setSupply_self p k v w)
    (fun p k l v w h => CanonicalLedger.setSupply_comm p k l v w h) denom a b.supplies.ascending _

/-- **What is done to a branch might as well be done to the committed ledger.** -/
theorem morphism_commit : Morphism (commit : Branch β → β) where
  view_eq := view_commit
  map_setBalance := commit_setBalance
  map_setSupply := commit_setSupply

end Branch

/-- **A journal that was posted to a branch might as well have been posted to its parent.** -/
theorem Journal.post_of_branch {β : Type} [Ledger β] [CanonicalLedger β] {b : β} {js : Journal}
    {c : Branch β} (h : Journal.post (Branch.start b) js = .ok c) :
    Journal.post b js = .ok c.commit := by
  have hmap := Journal.map_post Branch.morphism_commit js (Branch.start b)
  rw [h] at hmap
  exact hmap.symm

/-! ## What writes keep -/

namespace Ledger

variable {β : Type} [Ledger β]

/-- A property of ledgers that no write ends. -/
structure Stable (P : β → Prop) : Prop where
  setBalance {b : β} (h : P b) (account : Address) (denom : Denom) (a : Amount) :
    P (setBalance b account denom a)
  setSupply {b : β} (h : P b) (denom : Denom) (a : Amount) : P (setSupply b denom a)

namespace Stable

variable [LawfulLedger β] {P : β → Prop} {b c : β}

/-- **No posting ends what no write ends.** -/
theorem posting (hP : Stable P) (hb : P b) {j : Posting} (h : j.post b = .ok c) : P c := by
  have hkeep : ∀ {written : β} {coin : Coin}, P written →
      P (if coin.isZero then b else written) := by
    intro written coin hwritten
    split
    · exact hb
    · exact hwritten
  cases j with
  | pay source target coin =>
      obtain ⟨-, rfl⟩ := send_eq_ok_iff.1 h
      exact hkeep (hP.setBalance (hP.setBalance hb _ _ _) _ _ _)
  | mint name coin =>
      obtain ⟨-, rfl⟩ := mint_eq_ok_iff.1 h
      exact hkeep (hP.setSupply (hP.setBalance hb _ _ _) _ _)
  | burn name coin =>
      obtain ⟨-, -, -, rfl⟩ := burn_eq_ok_iff.1 h
      exact hkeep (hP.setSupply (hP.setBalance hb _ _ _) _ _)

theorem post (hP : Stable P) (hb : P b) {js : Journal} (h : Journal.post b js = .ok c) : P c := by
  induction js generalizing b with
  | nil =>
      cases h
      exact hb
  | cons j js ih =>
      obtain ⟨d, hd, hc⟩ := Journal.post_cons_eq_ok_iff.1 h
      exact ih (hP.posting hb hd) hc

end Stable

end Ledger

end Interchain
