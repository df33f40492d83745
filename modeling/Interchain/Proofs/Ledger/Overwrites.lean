import Interchain.Proofs.Ledger.Faults
import Interchain.Proofs.Ledger.Holdings

/-!
# Stored funds under injected failures

A ledger with injected failures shows a drained account as empty, but writes reach the stored
ledger. To credit a drained account therefore overwrites what it had: the coin is added to nothing,
and the sum is stored. A branch does the same when it is committed. What is done to the stored
ledger is what it would be on a stored ledger from which the overwritten holdings were struck before
(`FaultyLedger.struck_of_commit`), and a single operation does what it does in a branch of its own
(`FaultyLedger.map_post_commit`). So each step changes the stored balances by the amounts of the
operations that were carried out, less what it overwrites (`FaultyLedger.Step.effect`), and over a
run the balances fall short of the supply by all that was overwritten
(`FaultyLedger.Step.stored_funds`). They fall short of it if a drained account that has something is
credited (`FaultyLedger.Step.funds_overwritten`).
-/

set_option autoImplicit false

namespace Interchain

open Attempt (outcome_of_settled)
open Ledger (balance supply permissions view)

/-! ## Part of a stored ledger -/

namespace FiniteMap

variable {κ α : Type} [Ord κ]

/-- The entries whose keys satisfy `p`. -/
def keep (m : FiniteMap κ α) (p : κ → Bool) : FiniteMap κ α :=
  ⟨m.toList.filter fun e => p e.1, m.ascending.filter _⟩

omit [Ord κ] in
theorem lookupEntry_filter [DecidableEq κ] (p : κ → Bool) (k : κ) (es : List (κ × α)) :
    lookupEntry k (es.filter fun e => p e.1) = if p k = true then lookupEntry k es else none := by
  induction es with
  | nil => simp [lookupEntry]
  | cons e es ih =>
      by_cases he : p e.1 = true
      · rw [List.filter_cons_of_pos (by simpa using he), lookupEntry, lookupEntry, ih]
        by_cases hk : k = e.1
        · simp [hk, he]
        · simp [hk]
      · rw [List.filter_cons_of_neg (by simpa using he), ih, lookupEntry]
        by_cases hk : k = e.1
        · simp [hk, he]
        · simp [hk]

theorem amount_keep [DecidableEq κ] (m : FiniteMap κ Amount) (p : κ → Bool) (k : κ) :
    (m.keep p).amount k = if p k = true then m.amount k else 0 := by
  rw [amount, get?, keep, lookupEntry_filter]
  split
  · rfl
  · rfl

theorem sum_keep_add (w : κ → α → Int) (m : FiniteMap κ α) (p : κ → Bool) :
    (m.keep p).sum w + (m.keep fun k => !p k).sum w = m.sum w := by
  unfold sum keep
  dsimp only
  induction m.toList with
  | nil => rfl
  | cons e es ih =>
      by_cases he : p e.1 = true
      · rw [List.filter_cons_of_pos (by simpa using he), List.filter_cons_of_neg (by simp [he])]
        simp only [sumEntries]
        omega
      · rw [List.filter_cons_of_neg (by simpa using he), List.filter_cons_of_pos (by simp [he])]
        simp only [sumEntries]
        omega

end FiniteMap

namespace MemoryLedger

/-- The ledger with those balances only that satisfy `p`. -/
def keep (b : MemoryLedger) (p : Holding → Bool) : MemoryLedger :=
  { b with balances := b.balances.keep p }

theorem balance_keep (b : MemoryLedger) (p : Holding → Bool) (account : Address) (denom : Denom) :
    balance (b.keep p) account denom =
      if p ⟨account, denom⟩ = true then balance b account denom else 0 :=
  FiniteMap.amount_keep b.balances p ⟨account, denom⟩

/-- What is kept and what is not make up the whole. -/
theorem totalHeld_keep_add (b : MemoryLedger) (p : Holding → Bool) (denom : Denom) :
    (b.keep p).totalHeld denom + (b.keep fun h => !p h).totalHeld denom = b.totalHeld denom := by
  apply Int.ofNat.inj
  show (((b.keep p).totalHeld denom + (b.keep fun h => !p h).totalHeld denom : Nat) : Int) =
    b.totalHeld denom
  push_cast
  rw [totalHeld_eq_sum, totalHeld_eq_sum, totalHeld_eq_sum]
  exact FiniteMap.sum_keep_add _ _ p

/-- Nothing is held in all exactly if no account holds anything. -/
theorem totalHeld_eq_zero_iff (b : MemoryLedger) :
    (∀ denom, b.totalHeld denom = 0) ↔ ∀ account denom, balance b account denom = 0 := by
  constructor
  · intro h account denom
    have hle := b.balance_le_totalHeld account denom
    rw [h denom] at hle
    exact Nat.le_zero.1 hle
  · intro h denom
    have hsum : (b.totalHeld denom : Int) = (∅ : MemoryLedger).totalHeld denom := by
      rw [totalHeld_eq_sum, totalHeld_eq_sum]
      exact FiniteMap.sum_eq_of_amount (holdingWeight_zero denom) fun k => h k.account k.denom
    exact Int.ofNat.inj hsum

end MemoryLedger

/-! ## What postings write -/

/-- Whether the posting writes to a holding. -/
def Posting.writes (h : Holding) : Posting → Bool
  | .pay source target coin =>
      !coin.isZero && (h = ⟨source, coin.denom⟩ || h = ⟨target, coin.denom⟩)
  | .mint name coin => !coin.isZero && h = ⟨.ofModule name, coin.denom⟩
  | .burn name coin => !coin.isZero && h = ⟨.ofModule name, coin.denom⟩

namespace Branch

variable {β : Type} [Ledger β]

omit [Ledger β] in
/-- Whether the branch holds a balance of its own for a holding. -/
def wrote (c : Branch β) (h : Holding) : Bool :=
  (c.balances.get? h).isSome

@[simp]
theorem wrote_setBalance (c : Branch β) (account : Address) (denom : Denom) (a : Amount)
    (h : Holding) : (Ledger.setBalance c account denom a).wrote h =
      (decide (h = ⟨account, denom⟩) || c.wrote h) := by
  show (((c.balances.insert ⟨account, denom⟩ a).get? h).isSome) = _
  rw [FiniteMap.get?_insert]
  by_cases hh : h = ⟨account, denom⟩
  · simp [hh]
  · simp [hh, wrote]

@[simp]
theorem wrote_setSupply (c : Branch β) (denom : Denom) (a : Amount) (h : Holding) :
    (Ledger.setSupply c denom a).wrote h = c.wrote h :=
  rfl

@[simp]
theorem wrote_credit (c : Branch β) (account : Address) (coin : Coin) (h : Holding) :
    (Ledger.credit c account coin).wrote h =
      (decide (h = ⟨account, coin.denom⟩) || c.wrote h) :=
  wrote_setBalance ..

theorem wrote_posting {c d : Branch β} {j : Posting} (hj : j.post c = .ok d) (h : Holding) :
    d.wrote h = (j.writes h || c.wrote h) := by
  cases j with
  | pay source target coin =>
      obtain ⟨-, rfl⟩ := Ledger.send_eq_ok_iff.1 hj
      cases hzero : coin.isZero with
      | true => simp [Posting.writes, hzero]
      | false => simp [Posting.writes, hzero, Bool.or_comm, Bool.or_assoc]
  | mint name coin =>
      obtain ⟨-, rfl⟩ := Ledger.mint_eq_ok_iff.1 hj
      cases hzero : coin.isZero with
      | true => simp [Posting.writes, hzero]
      | false => simp [Posting.writes, hzero]
  | burn name coin =>
      obtain ⟨-, -, -, rfl⟩ := Ledger.burn_eq_ok_iff.1 hj
      cases hzero : coin.isZero with
      | true => simp [Posting.writes, hzero]
      | false => simp [Posting.writes, hzero]

/-- **A branch holds balances of its own for what was written to.** -/
theorem wrote_post {c d : Branch β} {js : Journal} (hjs : Journal.post c js = .ok d)
    (h : Holding) : d.wrote h = (js.any (·.writes h) || c.wrote h) := by
  induction js generalizing c with
  | nil =>
      cases hjs
      rfl
  | cons j js ih =>
      obtain ⟨e, he, hd⟩ := Journal.post_cons_eq_ok_iff.1 hjs
      rw [ih hd, wrote_posting he, List.any_cons]
      simp only [Bool.or_comm, Bool.or_left_comm]

end Branch

/-! ## Ledgers that have more than is shown -/

/-- Whether a stored ledger has what another ledger shows and, besides, what is hidden there, and
permits what the other one permits. -/
structure MemoryLedger.Exceeds {γ : Type} [Ledger γ] (b : MemoryLedger) (c : γ)
    (hidden : Address → Denom → Amount) : Prop where
  balance : ∀ account denom,
    Ledger.balance b account denom = Ledger.balance c account denom + hidden account denom
  supply : ∀ denom, Ledger.supply b denom = Ledger.supply c denom
  minter : ∀ name, (Ledger.permissions c name).minter = true →
    (Ledger.permissions b name).minter = true
  burner : ∀ name, (Ledger.permissions c name).burner = true →
    (Ledger.permissions b name).burner = true

namespace MemoryLedger.Exceeds

variable {γ : Type} [Ledger γ] [LawfulLedger γ] {b : MemoryLedger} {c d : γ}
  {hidden : Address → Denom → Amount}

/-- What goes through on the ledger that shows less goes through on the other. -/
theorem posting (h : b.Exceeds c hidden) {j : Posting} (hj : j.post c = .ok d) :
    ∃ e, j.post b = .ok e ∧ e.Exceeds d hidden := by
  have hle : ∀ account denom,
      Ledger.balance c account denom ≤ Ledger.balance b account denom := fun account denom => by
    rw [h.balance account denom]
    exact Nat.le_add_right _ _
  have hcovered : j.Covered b := by
    have hshown := (Posting.exists_post_iff j).1 ⟨d, hj⟩
    cases j with
    | pay source target coin => exact Nat.le_trans hshown (hle _ _)
    | mint name coin => exact h.minter name hshown
    | burn name coin =>
        obtain ⟨hburner, hheld, hsupply⟩ := hshown
        refine ⟨h.burner name hburner, Nat.le_trans hheld (hle _ _), ?_⟩
        rw [h.supply]
        exact hsupply
  obtain ⟨e, he⟩ := (Posting.exists_post_iff j).2 hcovered
  refine ⟨e, he, ?_, ?_, ?_, ?_⟩
  · intro account denom
    have hmore := Posting.balance_post he account denom
    have hless := Posting.balance_post hj account denom
    rw [h.balance account denom] at hmore
    apply Int.ofNat.inj
    show (Ledger.balance e account denom : Int) =
      ((Ledger.balance d account denom + hidden account denom : Nat) : Int)
    push_cast at hmore ⊢
    omega
  · intro denom
    have hmore := Posting.supply_post he denom
    have hless := Posting.supply_post hj denom
    rw [h.supply denom, ← hless] at hmore
    exact Int.ofNat.inj hmore
  · intro name hpermitted
    rw [Posting.permissions_post hj] at hpermitted
    rw [Posting.permissions_post he]
    exact h.minter name hpermitted
  · intro name hpermitted
    rw [Posting.permissions_post hj] at hpermitted
    rw [Posting.permissions_post he]
    exact h.burner name hpermitted

theorem post (h : b.Exceeds c hidden) {js : Journal} (hjs : Journal.post c js = .ok d) :
    ∃ e, Journal.post b js = .ok e ∧ e.Exceeds d hidden := by
  induction js generalizing b c with
  | nil =>
      cases hjs
      exact ⟨b, rfl, h⟩
  | cons j js ih =>
      obtain ⟨c', hj, hrest⟩ := Journal.post_cons_eq_ok_iff.1 hjs
      obtain ⟨b', hb', h'⟩ := h.posting hj
      obtain ⟨e, he, hexceeds⟩ := ih h' hrest
      exact ⟨e, Journal.post_cons_eq_ok_iff.2 ⟨b', hb', he⟩, hexceeds⟩

end MemoryLedger.Exceeds

/-! ## Drafts -/

/-- Postings, and drafts inside drafts that are kept or dropped, in the order they are taken. -/
inductive Draft where
  | done
  | post (j : Posting) (rest : Draft)
  | branch (inner : Draft) (kept : Bool) (rest : Draft)

namespace Draft

/-- The postings of a draft that are carried out, those in dropped drafts left out, and the ledger
after it. A posting that is refused does not keep the next from being tried, and a draft inside is
taken on a branch. -/
def run : Draft → {β : Type} → [Ledger β] → β → Journal × β
  | done, _, _, b => ([], b)
  | post j rest, _, _, b =>
      let tried := j.command.run b
      let next := rest.run tried.2
      (if tried.1.isOk then j :: next.1 else next.1, next.2)
  | branch inner kept rest, _, _, b =>
      let within := inner.run (Branch.start b)
      let next := rest.run (if kept then within.2.commit else within.2.parent)
      (if kept then within.1 ++ next.1 else next.1, next.2)

/-- **A draft comes to the postings of it that are carried out.** -/
theorem post_run (draft : Draft) {β : Type} [Ledger β] [CanonicalLedger β] (b : β) :
    Journal.post b (draft.run b).1 = .ok (draft.run b).2 := by
  induction draft generalizing β with
  | done => rfl
  | post j rest ih =>
      simp only [run, Posting.run_command]
      cases hj : j.post b with
      | ok c => exact Journal.post_cons_eq_ok_iff.2 ⟨c, hj, ih c⟩
      | error e => exact ih b
  | branch inner kept rest ihInner ihRest =>
      have hinner := ihInner (Branch.start b)
      simp only [run]
      cases kept with
      | true => exact Journal.post_append_eq_ok_iff.2 ⟨_, Journal.post_of_branch hinner, ihRest _⟩
      | false =>
          -- what was dropped never reached the ledger
          have hparent : (inner.run (Branch.start b)).2.parent = b :=
            (Branch.stable_parent b).post rfl hinner
          simp only [Bool.false_eq_true, if_false, hparent]
          exact ihRest b

end Draft

namespace FaultyLedger

/-! ## Committing to a ledger with failures -/

/-- A commit writes to the stored ledger as if there were no failures. -/
theorem commit_eq (c : Branch FaultyLedger) : c.commit =
    ⟨(⟨c.parent.stored, c.balances, c.supplies⟩ : Branch MemoryLedger).commit,
      c.parent.failPoints⟩ := by
  let injected : MemoryLedger → FaultyLedger := fun stored => ⟨stored, c.parent.failPoints⟩
  -- every write passes the injected failures by
  have hbalances : ∀ stored : MemoryLedger, c.balances.toList.foldl
      (fun p e => Ledger.setBalance p e.1.account e.1.denom e.2) (injected stored) =
        injected (c.balances.toList.foldl
          (fun p e => Ledger.setBalance p e.1.account e.1.denom e.2) stored) :=
    fun _ => List.foldl_hom injected fun _ _ => rfl
  have hsupplies : ∀ stored : MemoryLedger, c.supplies.toList.foldl
      (fun p e => Ledger.setSupply p e.1 e.2) (injected stored) =
        injected (c.supplies.toList.foldl (fun p e => Ledger.setSupply p e.1 e.2) stored) :=
    fun _ => List.foldl_hom injected fun _ _ => rfl
  rw [Branch.commit, show c.parent = injected c.parent.stored from rfl, hbalances, hsupplies]
  rfl

theorem commit_setBalance (c : Branch FaultyLedger) (account : Address) (denom : Denom)
    (a : Amount) : (Ledger.setBalance c account denom a).commit =
      Ledger.setBalance c.commit account denom a := by
  rw [commit_eq, commit_eq]
  exact congrArg (fun stored => (⟨stored, c.parent.failPoints⟩ : FaultyLedger))
    (Branch.commit_setBalance ⟨c.parent.stored, c.balances, c.supplies⟩ account denom a)

theorem commit_setSupply (c : Branch FaultyLedger) (denom : Denom) (a : Amount) :
    (Ledger.setSupply c denom a).commit = Ledger.setSupply c.commit denom a := by
  rw [commit_eq, commit_eq]
  exact congrArg (fun stored => (⟨stored, c.parent.failPoints⟩ : FaultyLedger))
    (Branch.commit_setSupply ⟨c.parent.stored, c.balances, c.supplies⟩ denom a)

/-- After a debit a branch shows of every account what the ledger itself would show. The account
that was debited is not drained, since it could pay. -/
theorem balance_after_debit {b : FaultyLedger} {source : Address} (h : b.drained source = false)
    (kind : Denom) (a : Amount) (target : Address) :
    balance (Ledger.setBalance (Branch.start b) source kind a) target kind =
      balance (Ledger.setBalance b source kind a) target kind := by
  rw [LawfulLedger.balance_setBalance]
  cases hdrained : b.drained target with
  | true =>
      have hne : ¬ (target = source ∧ kind = kind) := by
        rintro ⟨rfl, -⟩
        rw [hdrained] at h
        cases h
      have hafter : (Ledger.setBalance b source kind a).drained target = true := hdrained
      rw [if_neg hne, balance_of_drained hafter]
      exact balance_of_drained hdrained kind
  | false =>
      rw [balance_setBalance hdrained]
      rfl

/-- An account that can pay is not drained. -/
theorem not_drained_of_pays {b : FaultyLedger} {source : Address} {coin : Coin} {remaining : Amount}
    (hzero : coin.isZero = false)
    (h : (balance b source coin.denom).sub? coin.amount = some remaining) :
    b.drained source = false := by
  cases hdrained : b.drained source with
  | false => rfl
  | true =>
      rw [balance_of_drained hdrained, sub?_zero hzero] at h
      cases h

theorem map_send_commit (b : FaultyLedger) (source target : Address) (coin : Coin) :
    ((Ledger.send source target coin).outcome (Branch.start b)).map Branch.commit =
      (Ledger.send source target coin).outcome b := by
  rw [outcome_of_settled (Ledger.send_eq_settled ..),
    outcome_of_settled (Ledger.send_eq_settled ..)]
  cases hzero : coin.isZero with
  | true => rfl
  | false =>
      have hshown : balance (Branch.start b) source coin.denom = balance b source coin.denom := rfl
      simp only [Bool.false_eq_true, if_false, hshown]
      cases hsub : (balance b source coin.denom).sub? coin.amount with
      | none => rfl
      | some remaining =>
          have hdebit := balance_after_debit (not_drained_of_pays hzero hsub) coin.denom remaining
            target
          simp only [Except.map, Ledger.credit, commit_setBalance, Branch.commit_start, hdebit]

theorem map_mint_commit (b : FaultyLedger) (name : String) (coin : Coin) :
    ((Ledger.mint name coin).outcome (Branch.start b)).map Branch.commit =
      (Ledger.mint name coin).outcome b := by
  have hpermissions : permissions (Branch.start b) name = permissions b name := rfl
  have hshown : balance (Branch.start b) (.ofModule name) coin.denom =
      balance b (.ofModule name) coin.denom := rfl
  rw [outcome_of_settled (Ledger.mint_eq_settled ..),
    outcome_of_settled (Ledger.mint_eq_settled ..), hpermissions]
  cases (permissions b name).minter with
  | false => rfl
  | true =>
      cases coin.isZero with
      | true => rfl
      | false =>
          simp only [Bool.not_true, Bool.false_eq_true, if_false, Except.map, Ledger.credit,
            commit_setSupply, commit_setBalance, Branch.commit_start, hshown]
          rfl

theorem map_burn_commit (b : FaultyLedger) (name : String) (coin : Coin) :
    ((Ledger.burn name coin).outcome (Branch.start b)).map Branch.commit =
      (Ledger.burn name coin).outcome b := by
  have hpermissions : permissions (Branch.start b) name = permissions b name := rfl
  have hshown : balance (Branch.start b) (.ofModule name) coin.denom =
      balance b (.ofModule name) coin.denom := rfl
  have hsupply : supply (Branch.start b) coin.denom = supply b coin.denom := rfl
  rw [outcome_of_settled (Ledger.burn_eq_settled ..),
    outcome_of_settled (Ledger.burn_eq_settled ..), hpermissions]
  cases (permissions b name).burner with
  | false => rfl
  | true =>
      cases coin.isZero with
      | true => rfl
      | false =>
          simp only [Bool.not_true, Bool.false_eq_true, if_false, hshown, hsupply]
          cases (balance b (.ofModule name) coin.denom).sub? coin.amount with
          | none => rfl
          | some remaining =>
              cases (supply b coin.denom).sub? coin.amount with
              | none => rfl
              | some left =>
                  simp only [Except.map, commit_setSupply, commit_setBalance, Branch.commit_start]

/-- **An operation on the ledger itself does what it does in a branch of its own.** -/
theorem map_post_commit (b : FaultyLedger) (j : Posting) :
    (j.post (Branch.start b)).map Branch.commit = j.post b := by
  cases j with
  | pay source target coin => exact map_send_commit b source target coin
  | mint name coin => exact map_mint_commit b name coin
  | burn name coin => exact map_burn_commit b name coin

/-! ## What is overwritten -/

/-- Whether the holding is of a drained account and written to by one of the postings. -/
def overwrites (b : FaultyLedger) (js : Journal) (h : Holding) : Bool :=
  b.drained h.account && js.any (·.writes h)

/-- What a drained account has and keeps, since nothing is written to it. -/
def hidden (b : FaultyLedger) (js : Journal) (account : Address) (denom : Denom) : Amount :=
  if b.drained account = true ∧ js.any (·.writes ⟨account, denom⟩) = false then
    balance b.stored account denom
  else 0

theorem balance_shown (b : FaultyLedger) (account : Address) (denom : Denom) :
    balance b account denom =
      if b.drained account = true then 0 else balance b.stored account denom :=
  rfl

/-- Without what will be overwritten, the stored ledger has what is shown and what is hidden. -/
theorem exceeds_start (b : FaultyLedger) (js : Journal) :
    (b.stored.keep fun h => !b.overwrites js h).Exceeds (Branch.start b) (b.hidden js) where
  balance account denom := by
    have hstart : balance (Branch.start b) account denom = balance b account denom := rfl
    rw [MemoryLedger.balance_keep, hstart, balance_shown, overwrites, hidden]
    cases b.drained account with
    | false => simp
    | true =>
        cases js.any (·.writes ⟨account, denom⟩) with
        | false => simp
        | true => simp
  supply _ := rfl
  minter name hpermitted := (Bool.and_eq_true_iff.1 hpermitted).1
  burner name hpermitted := (Bool.and_eq_true_iff.1 hpermitted).1

/-- **A commit overwrites what drained accounts had.** The stored ledger after it shows what the
postings lead to on the stored ledger before it, without the holdings of drained accounts that they
write to. -/
theorem struck_of_commit {b : FaultyLedger} {js : Journal} {c : Branch FaultyLedger}
    (h : Journal.post (Branch.start b) js = .ok c) :
    ∃ d, Journal.post (b.stored.keep fun h => !b.overwrites js h) js = .ok d ∧
      view d = view c.commit.stored := by
  obtain ⟨d, hd, hexceeds⟩ := (exceeds_start b js).post h
  have hparent : c.parent = b := (Branch.stable_parent b).post rfl h
  have hstored : c.commit.stored =
      (⟨b.stored, c.balances, c.supplies⟩ : Branch MemoryLedger).commit := by
    rw [commit_eq, hparent]
  refine ⟨d, hd, LedgerView.ext ?_ ?_ ?_⟩
  · funext account denom
    have hwrote := Branch.wrote_post h ⟨account, denom⟩
    show balance d account denom = balance c.commit.stored account denom
    rw [hexceeds.balance, hstored, Branch.morphism_commit.balance_eq, Branch.balance_eq,
      Branch.balance_eq, hparent, hidden]
    rw [show (Branch.start b).wrote ⟨account, denom⟩ = false from rfl, Bool.or_false,
      Branch.wrote] at hwrote
    rw [← hwrote]
    cases c.balances.get? ⟨account, denom⟩ with
    | some a => simp
    | none =>
        -- nothing was written there, so what was stored before still is
        rw [balance_shown]
        cases b.drained account with
        | true => simp
        | false => simp
  · funext denom
    show supply d denom = supply c.commit.stored denom
    rw [hexceeds.supply, hstored, Branch.morphism_commit.supply_eq, Branch.supply_eq, hparent]
    rfl
  · funext name
    show permissions d name = permissions c.commit.stored name
    rw [Journal.permissions_post hd, hstored, Branch.morphism_commit.permissions_eq]
    rfl

/-! ## Steps -/

/-- What is done to a ledger with failures: it is funded, failures are injected and cleared, modules
are registered, operations are tried, and drafts are taken on a branch that is kept or dropped. -/
inductive Step where
  | fund (account : Address) (coin : Coin)
  | failOn (point : FailPoint)
  | clearFailures
  | registerModule (name : String) (permissions : ModulePermissions)
  | post (j : Posting)
  | branch (draft : Draft) (kept : Bool)

namespace Step

/-- The ledger after a step. -/
def run (b : FaultyLedger) : Step → FaultyLedger
  | fund account coin => b.fund account coin
  | failOn point => b.failOn point
  | clearFailures => b.clearFailures
  | registerModule name permissions => b.registerModule name permissions
  | post j => (j.command.run b).2
  | branch draft kept =>
      let within := (draft.run (Branch.start b)).2
      if kept then within.commit else within.parent

/-- The operations of a step that are carried out and reach the ledger. -/
def journal (b : FaultyLedger) : Step → Journal
  | post j => if (j.command.run b).1.isOk then [j] else []
  | branch draft kept => if kept then (draft.run (Branch.start b)).1 else []
  | _ => []

/-- What the operations of a step that are carried out add to a balance. -/
def change (b : FaultyLedger) : Step → Address → Denom → Int
  | fund owner coin, account, denom => coin.share owner account denom
  | s, account, denom => Journal.change (s.journal b) account denom

/-- What the operations of a step that are carried out add to a supply. -/
def issue (b : FaultyLedger) : Step → Denom → Int
  | fund _ coin, denom => coin.worth denom
  | s, denom => Journal.issue (s.journal b) denom

/-- What a step overwrites of the stored balances: those of drained accounts that an operation which
is carried out writes to. -/
def lost (b : FaultyLedger) (s : Step) : MemoryLedger :=
  b.stored.keep (b.overwrites (s.journal b))

/-- What a step does to the stored ledger. -/
structure Effect (b : FaultyLedger) (s : Step) : Prop where
  balance : ∀ account denom, (Ledger.balance (s.run b).stored account denom : Int) =
    Ledger.balance b.stored account denom + s.change b account denom -
      Ledger.balance (s.lost b) account denom
  supply : ∀ denom, (Ledger.supply (s.run b).stored denom : Int) =
    Ledger.supply b.stored denom + s.issue b denom
  totalHeld : ∀ denom, ((s.run b).stored.totalHeld denom : Int) =
    b.stored.totalHeld denom + s.issue b denom - (s.lost b).totalHeld denom

/-- An operation comes to the commit of a branch, of one without writes if it is refused. -/
theorem exists_commit_of_post (b : FaultyLedger) (j : Posting) :
    ∃ c, Journal.post (Branch.start b) ((post j).journal b) = .ok c ∧
      (post j).run b = c.commit := by
  rw [journal, run, Posting.run_command, ← map_post_commit]
  cases hj : j.post (Branch.start b) with
  | ok c => exact ⟨c, Journal.post_cons_eq_ok_iff.2 ⟨c, hj, rfl⟩, rfl⟩
  | error e => exact ⟨Branch.start b, rfl, rfl⟩

/-- So does a draft, since nothing of a dropped one has reached the ledger. -/
theorem exists_commit_of_branch (b : FaultyLedger) (draft : Draft) (kept : Bool) :
    ∃ c, Journal.post (Branch.start b) ((branch draft kept).journal b) = .ok c ∧
      (branch draft kept).run b = c.commit := by
  have hposted := draft.post_run (Branch.start b)
  cases kept with
  | true => exact ⟨_, hposted, rfl⟩
  | false => exact ⟨Branch.start b, rfl, (Branch.stable_parent b).post rfl hposted⟩

/-- Without an operation that is carried out nothing is overwritten. -/
theorem balance_lost_of_nil {b : FaultyLedger} {s : Step} (h : s.journal b = [])
    (account : Address) (denom : Denom) : Ledger.balance (s.lost b) account denom = 0 := by
  rw [lost, h, MemoryLedger.balance_keep, overwrites]
  simp

/-- Nor does anything else change, if the step leaves the stored funds alone. -/
theorem effect_of_idle {b : FaultyLedger} {s : Step} (hjournal : s.journal b = [])
    (hchange : ∀ account denom, s.change b account denom = 0)
    (hissue : ∀ denom, s.issue b denom = 0)
    (hbalances : (s.run b).stored.balances = b.stored.balances)
    (hsupplies : (s.run b).stored.supplies = b.stored.supplies) : Effect b s where
  balance account denom := by
    rw [hchange, balance_lost_of_nil hjournal]
    show (((s.run b).stored.balances.amount ⟨account, denom⟩ : Nat) : Int) =
      b.stored.balances.amount ⟨account, denom⟩ + 0 - (0 : Nat)
    rw [hbalances]
    omega
  supply denom := by
    rw [hissue]
    show (((s.run b).stored.supplies.amount denom : Nat) : Int) =
      b.stored.supplies.amount denom + 0
    rw [hsupplies]
    omega
  totalHeld denom := by
    have hlost := (s.lost b).totalHeld_eq_zero_iff.2 (balance_lost_of_nil hjournal) denom
    have hheld : (s.run b).stored.totalHeld denom = b.stored.totalHeld denom := by
      rw [MemoryLedger.totalHeld, MemoryLedger.totalHeld, hbalances]
    rw [hissue, hlost, hheld]
    simp

/-- A step that comes to the commit of a branch. -/
theorem effect_of_commit {b : FaultyLedger} {s : Step} {c : Branch FaultyLedger}
    (hpost : Journal.post (Branch.start b) (s.journal b) = .ok c) (hrun : s.run b = c.commit)
    (hchange : ∀ account denom,
      s.change b account denom = Journal.change (s.journal b) account denom)
    (hissue : ∀ denom, s.issue b denom = Journal.issue (s.journal b) denom) : Effect b s := by
  obtain ⟨d, hd, hview⟩ := struck_of_commit hpost
  -- the ledger before is what was struck from it and the rest
  have hparts := fun denom => b.stored.totalHeld_keep_add (b.overwrites (s.journal b)) denom
  refine ⟨fun account denom => ?_, fun denom => ?_, fun denom => ?_⟩
  · have hbalance := Journal.balance_post hd account denom
    have hshown : Ledger.balance d account denom = Ledger.balance c.commit.stored account denom :=
      congrFun (congrFun (congrArg LedgerView.balance hview) account) denom
    rw [hshown, MemoryLedger.balance_keep] at hbalance
    rw [hrun, hchange, lost, MemoryLedger.balance_keep]
    cases hover : b.overwrites (s.journal b) ⟨account, denom⟩ with
    | true =>
        simp only [hover, Bool.not_true, Bool.false_eq_true, if_false] at hbalance
        simp only [if_true]
        omega
    | false =>
        simp only [hover, Bool.not_false, if_true] at hbalance
        simp only [Bool.false_eq_true, if_false]
        omega
  · have hsupply := Journal.supply_post hd denom
    have hshown : Ledger.supply d denom = Ledger.supply c.commit.stored denom :=
      congrFun (congrArg LedgerView.supply hview) denom
    rw [hrun, hissue, ← hshown]
    exact hsupply
  · have htotal := MemoryLedger.totalHeld_post hd denom
    rw [MemoryLedger.totalHeld_eq_of_view hview] at htotal
    rw [hrun, hissue, htotal, lost]
    show _ = (b.stored.totalHeld denom : Int) + _ - _
    rw [← hparts denom]
    push_cast
    omega

/-- What is given to an account is added to what is stored there and to the supply. -/
theorem effect_of_fund (b : FaultyLedger) (owner : Address) (coin : Coin) :
    Effect b (fund owner coin) where
  balance account denom := by
    rw [balance_lost_of_nil rfl]
    show (Ledger.balance (b.stored.fund owner coin) account denom : Int) = _
    rw [MemoryLedger.fund, LawfulLedger.balance_setSupply, Ledger.balance_credit]
    show _ = _ + coin.share owner account denom - ((0 : Nat) : Int)
    omega
  supply denom := by
    show (Ledger.supply (b.stored.fund owner coin) denom : Int) = _ + coin.worth denom
    rw [MemoryLedger.fund, LawfulLedger.supply_setSupply, Ledger.credit,
      LawfulLedger.supply_setBalance, Coin.worth]
    by_cases hd : denom = coin.denom
    · subst hd
      simp
    · simp [hd]
  totalHeld denom := by
    have hlost := ((fund owner coin).lost b).totalHeld_eq_zero_iff.2 (balance_lost_of_nil rfl) denom
    have hcredit := MemoryLedger.totalHeld_credit b.stored owner coin denom
    rw [hlost]
    show ((Ledger.credit b.stored owner coin).totalHeld denom : Int) =
      _ + coin.worth denom - ((0 : Nat) : Int)
    omega

/-- **What each step does.** A balance is changed by the amounts of the operations that are carried
out, less what the step overwrites there. -/
theorem effect (b : FaultyLedger) (s : Step) : Effect b s := by
  cases s with
  | fund owner coin => exact effect_of_fund b owner coin
  | failOn point => exact effect_of_idle rfl (fun _ _ => rfl) (fun _ => rfl) rfl rfl
  | clearFailures => exact effect_of_idle rfl (fun _ _ => rfl) (fun _ => rfl) rfl rfl
  | registerModule name permissions =>
      exact effect_of_idle rfl (fun _ _ => rfl) (fun _ => rfl) rfl rfl
  | post j =>
      obtain ⟨c, hposted, hrun⟩ := exists_commit_of_post b j
      exact effect_of_commit hposted hrun (fun _ _ => rfl) fun _ => rfl
  | branch draft kept =>
      obtain ⟨c, hposted, hrun⟩ := exists_commit_of_branch b draft kept
      exact effect_of_commit hposted hrun (fun _ _ => rfl) fun _ => rfl

/-! ## Runs -/

/-- The ledger after steps that are taken one after the other. -/
def runAll (b : FaultyLedger) (steps : List Step) : FaultyLedger :=
  steps.foldl run b

/-- All that the steps overwrite of a denomination. -/
def losses (b : FaultyLedger) : List Step → Denom → Amount
  | [], _ => 0
  | s :: steps, denom => (s.lost b).totalHeld denom + losses (s.run b) steps denom

/-- Whether no step overwrites a balance of a drained account that is not zero. -/
def Spares (b : FaultyLedger) : List Step → Prop
  | [] => True
  | s :: steps =>
      (∀ h, b.overwrites (s.journal b) h = true → Ledger.balance b.stored h.account h.denom = 0) ∧
        Spares (s.run b) steps

theorem totalHeld_runAll (b : FaultyLedger) (steps : List Step) (denom : Denom) :
    ((runAll b steps).stored.totalHeld denom : Int) -
        Ledger.supply (runAll b steps).stored denom + losses b steps denom =
      b.stored.totalHeld denom - Ledger.supply b.stored denom := by
  induction steps generalizing b with
  | nil =>
      show (b.stored.totalHeld denom : Int) - Ledger.supply b.stored denom + ((0 : Nat) : Int) = _
      omega
  | cons s steps ih =>
      have hstep := effect b s
      have hrest := ih (s.run b)
      rw [hstep.totalHeld denom, hstep.supply denom] at hrest
      show ((runAll (s.run b) steps).stored.totalHeld denom : Int) -
        Ledger.supply (runAll (s.run b) steps).stored denom +
          (((s.lost b).totalHeld denom + losses (s.run b) steps denom : Nat) : Int) = _
      push_cast
      omega

/-- Nothing is lost by a step exactly if what it overwrites are zeros. -/
theorem totalHeld_lost_eq_zero_iff (b : FaultyLedger) (s : Step) :
    (∀ denom, (s.lost b).totalHeld denom = 0) ↔
      ∀ h, b.overwrites (s.journal b) h = true →
        Ledger.balance b.stored h.account h.denom = 0 := by
  rw [MemoryLedger.totalHeld_eq_zero_iff]
  constructor
  · intro hzero h hover
    have hkept := hzero h.account h.denom
    rw [lost, MemoryLedger.balance_keep, if_pos hover] at hkept
    exact hkept
  · intro hzero account denom
    rw [lost, MemoryLedger.balance_keep]
    split
    · rename_i hover
      exact hzero _ hover
    · rfl

theorem losses_eq_zero_iff (b : FaultyLedger) (steps : List Step) :
    (∀ denom, losses b steps denom = 0) ↔ Spares b steps := by
  induction steps generalizing b with
  | nil => exact ⟨fun _ => trivial, fun _ _ => rfl⟩
  | cons s steps ih =>
      rw [Spares, ← totalHeld_lost_eq_zero_iff, ← ih]
      constructor
      · intro hzero
        exact ⟨fun denom => (Nat.add_eq_zero_iff.1 (hzero denom)).1,
          fun denom => (Nat.add_eq_zero_iff.1 (hzero denom)).2⟩
      · rintro ⟨hstep, hrest⟩ denom
        exact Nat.add_eq_zero_iff.2 ⟨hstep denom, hrest denom⟩

/-- Failures are injected and cleared by the steps that say so, and by no others. -/
theorem failPoints_run (b : FaultyLedger) (s : Step) :
    (s.run b).failPoints = match s with
      | failOn point => b.failPoints ++ [point]
      | clearFailures => []
      | _ => b.failPoints := by
  have hcommit : ∀ {js : Journal} {c : Branch FaultyLedger},
      Journal.post (Branch.start b) js = .ok c → c.commit.failPoints = b.failPoints := by
    intro js c h
    have hparent : c.parent = b := (Branch.stable_parent b).post rfl h
    rw [commit_eq, hparent]
  cases s with
  | fund owner coin => rfl
  | failOn point => rfl
  | clearFailures => rfl
  | registerModule name permissions => rfl
  | post j =>
      obtain ⟨c, hposted, hrun⟩ := exists_commit_of_post b j
      rw [hrun]
      exact hcommit hposted
  | branch draft kept =>
      obtain ⟨c, hposted, hrun⟩ := exists_commit_of_branch b draft kept
      rw [hrun]
      exact hcommit hposted

/-- As long as no account is drained nothing is overwritten, whatever else fails. -/
theorem spares_of_none_drained {b : FaultyLedger} (hb : ∀ account, b.drained account = false)
    {steps : List Step} (h : ∀ account, failOn (.drained account) ∉ steps) : Spares b steps := by
  induction steps generalizing b with
  | nil => trivial
  | cons s steps ih =>
      refine ⟨fun holding hover => ?_, ih (fun account => ?_) fun account hmem =>
        h account (List.mem_cons_of_mem s hmem)⟩
      · rw [overwrites, hb] at hover
        cases hover
      · have hfails : FailPoint.drained account ∉ b.failPoints := by
          simpa [drained, failsAt] using hb account
        have hafter : FailPoint.drained account ∉ (s.run b).failPoints := by
          rw [failPoints_run]
          cases s with
          | failOn point =>
              have hpoint : FailPoint.drained account ≠ point := by
                rintro rfl
                exact h account List.mem_cons_self
              simp [hfails, hpoint]
          | clearFailures => exact List.not_mem_nil
          | fund owner coin => exact hfails
          | registerModule name permissions => exact hfails
          | post j => exact hfails
          | branch draft kept => exact hfails
        simpa [drained, failsAt] using hafter

/-- **What becomes of stored funds under injected failures.** After any steps on an empty ledger the
stored balances of a denomination fall short of its supply by what the steps overwrote. Each step
changes balances and supplies by the amounts of the operations that are carried out, but for what it
overwrites: the balances of drained accounts that such an operation writes to, on the ledger itself
or on a branch that is committed. So the balances add up to the supplies exactly if nothing but
zeros was overwritten, which is so unless an account is made to appear empty. -/
theorem stored_funds (steps : List Step) :
    let b := runAll ∅ steps
    (∀ denom, b.stored.totalHeld denom + losses ∅ steps denom = Ledger.supply b denom) ∧
      (∀ s, Effect b s) ∧
      ((∀ denom, b.stored.totalHeld denom = Ledger.supply b denom) ↔ Spares ∅ steps) ∧
      (Spares ∅ steps ∨ ∃ account, failOn (.drained account) ∈ steps) := by
  have hsum : ∀ denom, (runAll ∅ steps).stored.totalHeld denom + losses ∅ steps denom =
      Ledger.supply (runAll ∅ steps) denom := by
    intro denom
    have hrun := totalHeld_runAll ∅ steps denom
    have hempty : ((∅ : FaultyLedger).stored.totalHeld denom : Int) -
        Ledger.supply (∅ : FaultyLedger).stored denom = 0 := rfl
    apply Int.ofNat.inj
    show (((runAll ∅ steps).stored.totalHeld denom + losses ∅ steps denom : Nat) : Int) =
      Ledger.supply (runAll ∅ steps).stored denom
    push_cast
    omega
  refine ⟨hsum, effect _, ?_, ?_⟩
  · rw [← losses_eq_zero_iff]
    refine forall_congr' fun denom => ?_
    rw [← hsum denom]
    exact Nat.left_eq_add
  · by_cases hdrained : ∃ account, failOn (.drained account) ∈ steps
    · exact .inr hdrained
    · exact .inl (spares_of_none_drained (fun _ => rfl) fun account hmem =>
        hdrained ⟨account, hmem⟩)

end Step

end FaultyLedger

namespace Sample

/-- The first user has funds and appears to have none when the second one pays to it. -/
def repaid : List FaultyLedger.Step :=
  [.fund (user 1) ⟨ore, 10⟩, .fund (user 2) ⟨ore, 10⟩, .failOn (.drained (user 1)),
    .post (.pay (user 2) (user 1) ⟨ore, 3⟩)]

end Sample

namespace FaultyLedger.Step

/-- **Funds may be lost.** What a drained account had is gone once it is credited, while the supply
stays as it was. -/
theorem funds_overwritten : ¬ ∀ (steps : List Step) (denom : Denom),
    (runAll ∅ steps).stored.totalHeld denom = Ledger.supply (runAll ∅ steps) denom := by
  intro hkept
  have hheld : (runAll ∅ Sample.repaid).stored.totalHeld Sample.ore = 10 := by decide
  have hsupply : Ledger.supply (runAll ∅ Sample.repaid) Sample.ore = 20 := by decide
  have hsame := hkept Sample.repaid Sample.ore
  rw [hheld, hsupply] at hsame
  exact absurd hsame (by decide)

end FaultyLedger.Step

end Interchain
