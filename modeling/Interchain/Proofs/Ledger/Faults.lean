import Interchain.Ledger.Faulty
import Interchain.Proofs.Ledger.Nesting
import Interchain.Sample

/-!
# Injected failures behind branches

A ledger with injected failures shows a drained account as empty, whatever is written to it. A
branch in front of it reads its own writes, so there an account that is drained shows what was
credited to it since, and may spend it. Except for what drained accounts show, the branch and the
ledger itself go on alike (`Shades.run`), and the ledger itself always refuses to take a coin out of
a drained account (`refused_of_draws`). So a script fares the same on both exactly if on the branch
no drained account ever gets to spend a coin (`failures_through_branches`). That is so in particular
if none is given one; otherwise the branch may hide the failure (`failures_hidden_by_branch`).
-/

set_option autoImplicit false

namespace Interchain

open Attempt (outcome_of_settled)
open Ledger (balance supply permissions)

/-- Nothing is not enough for a coin. -/
theorem Coin.not_le_zero (coin : Coin) (h : coin.isZero = false) : ¬ coin.amount ≤ 0 := by
  intro hle
  rw [isZero, Nat.le_zero.1 hle] at h
  exact absurd h (by decide)

/-! ## Scripts -/

namespace Posting

/-- The command that makes the posting. -/
def command : Posting → LedgerCommand
  | .pay source target coin => .send source target coin
  | .mint name coin => .mint name coin
  | .burn name coin => .burn name coin

variable {β : Type} [Ledger β]

theorem run_command (b : β) (j : Posting) :
    j.command.run b = LedgerCommand.settle b (j.post b) := by
  have hcommand : j.command.run b = LedgerCommand.perform b j.operation := by
    cases j with
    | pay source target coin => rfl
    | mint name coin => rfl
    | burn name coin => rfl
  rw [hcommand, LedgerCommand.perform_operation]

/-- Which operations of a script succeed. One that fails does not keep the next from being tried. -/
def outcomes (b : β) (script : List Posting) : List Bool :=
  (LedgerCommand.play b (script.map command)).1.map Except.isOk

/-- Whether the posting takes a coin out of a drained account. -/
inductive Draws (drained : Address → Bool) : Posting → Prop where
  | pay {source target : Address} {coin : Coin} (empty : drained source = true)
      (positive : coin.isZero = false) : Draws drained (.pay source target coin)
  | burn {name : String} {coin : Coin} (empty : drained (.ofModule name) = true)
      (positive : coin.isZero = false) : Draws drained (.burn name coin)

/-- Whether the posting gives a coin to a drained account. -/
inductive Feeds (drained : Address → Bool) : Posting → Prop where
  | pay {source target : Address} {coin : Coin} (empty : drained target = true)
      (positive : coin.isZero = false) : Feeds drained (.pay source target coin)
  | mint {name : String} {coin : Coin} (empty : drained (.ofModule name) = true)
      (positive : coin.isZero = false) : Feeds drained (.mint name coin)

/-- Whether no drained account can pay when a posting of the script draws on it. -/
def Starves (drained : Address → Bool) (b : β) : List Posting → Prop
  | [] => True
  | j :: script => (j.Draws drained → ¬ j.Covered b) ∧ Starves drained (j.command.run b).2 script

/-- An account that gets only coins of amount zero gets nothing. -/
theorem share_eq_zero {drained : Address → Bool} {target account : Address} {coin : Coin}
    (h : drained target = true → coin.isZero = false → False) (hempty : drained account = true)
    (denom : Denom) : coin.share target account denom = 0 := by
  by_cases htarget : account = target
  · subst htarget
    have hzero : coin.isZero = true := by
      cases hcoin : coin.isZero with
      | true => rfl
      | false => exact (h hempty hcoin).elim
    rw [Coin.share, Coin.amount_of_isZero hzero]
    split
    · rfl
    · rfl
  · exact Coin.share_of_ne htarget denom

/-- What is not given a coin does not gain. -/
theorem change_le_of_not_feeds {drained : Address → Bool} {j : Posting} (h : ¬ j.Feeds drained)
    {account : Address} (hempty : drained account = true) (denom : Denom) :
    j.change account denom ≤ 0 := by
  cases j with
  | pay source target coin =>
      have hgain := share_eq_zero (fun hd hzero => h (.pay hd hzero)) hempty denom
      have hloss := Coin.share_nonneg coin source account denom
      rw [change, hgain]
      omega
  | mint name coin =>
      have hgain := share_eq_zero (fun hd hzero => h (.mint hd hzero)) hempty denom
      exact Int.le_of_eq hgain
  | burn name coin =>
      have hloss := Coin.share_nonneg coin (.ofModule name) account denom
      rw [change]
      omega

/-- An account that is empty cannot pay. -/
theorem not_covered_of_draws {drained : Address → Bool} {b : β}
    (hempty : ∀ account denom, drained account = true → balance b account denom = 0) {j : Posting}
    (h : j.Draws drained) : ¬ j.Covered b := by
  cases h with
  | @pay source target coin hd hzero =>
      intro hcovered
      rw [Covered, hempty source _ hd] at hcovered
      exact coin.not_le_zero hzero hcovered
  | @burn name coin hd hzero =>
      rintro ⟨-, hcovered, -⟩
      rw [hempty _ _ hd] at hcovered
      exact coin.not_le_zero hzero hcovered

/-- **Accounts that are empty and are given nothing cannot pay.** -/
theorem starves_of_not_fed [LawfulLedger β] {drained : Address → Bool} {b : β}
    {script : List Posting}
    (hempty : ∀ account denom, drained account = true → balance b account denom = 0)
    (hfed : ∀ j ∈ script, ¬ j.Feeds drained) : Starves drained b script := by
  -- drained accounts stay empty, so the induction goes over all ledgers on which they are
  induction script generalizing b with
  | nil => trivial
  | cons j script ih =>
      refine ⟨not_covered_of_draws hempty, ih ?_ fun k hk => hfed k (List.mem_cons_of_mem _ hk)⟩
      intro account denom hdrained
      rw [run_command]
      cases hpost : j.post b with
      | error e => exact hempty account denom hdrained
      | ok c =>
          have hbalance := balance_post hpost account denom
          have hchange := change_le_of_not_feeds (hfed j List.mem_cons_self) hdrained denom
          rw [hempty account denom hdrained] at hbalance
          show balance c account denom = 0
          have hle : (balance c account denom : Int) ≤ 0 := by omega
          exact Nat.le_zero.1 (Int.ofNat_le.1 hle)

end Posting

/-- A ledger behind a number of branches, one in front of the other. -/
def Branched (β : Type) : Nat → Type
  | 0 => β
  | n + 1 => Branch (Branched β n)

namespace Branched

variable {β : Type} [Ledger β]

instance ledger : (n : Nat) → Ledger (Branched β n)
  | 0 => inferInstanceAs (Ledger β)
  | n + 1 =>
      let _ := ledger n
      inferInstanceAs (Ledger (Branch (Branched β n)))

instance lawful (n : Nat) : LawfulLedger (Branched β (n + 1)) :=
  inferInstanceAs (LawfulLedger (Branch (Branched β n)))

/-- The innermost of `n` branches that have just been opened. -/
def opened (b : β) : (n : Nat) → Branched β n
  | 0 => b
  | n + 1 => Branch.start (opened b n)

/-- Fresh branches show what the ledger behind them shows. -/
theorem view_opened (b : β) (n : Nat) : Ledger.view (opened b n) = Ledger.view b := by
  induction n with
  | zero => rfl
  | succ n ih => exact ih

theorem balance_opened (b : β) (n : Nat) (account : Address) (denom : Denom) :
    balance (opened b n) account denom = balance b account denom :=
  congrFun (congrFun (congrArg LedgerView.balance (view_opened b n)) account) denom

end Branched

/-! ## A ledger with failures and one that is told apart by them only -/

namespace FaultyLedger

/-- Whether the account is made to appear empty. -/
def drained (b : FaultyLedger) (account : Address) : Bool :=
  b.failsAt (.drained account)

theorem balance_of_drained {b : FaultyLedger} {account : Address} (h : b.drained account = true)
    (denom : Denom) : balance b account denom = 0 :=
  if_pos h

/-- An account that is not drained shows what was written last. -/
theorem balance_setBalance {b : FaultyLedger} {account : Address} (h : b.drained account = false)
    (owner : Address) (kind denom : Denom) (a : Amount) :
    balance (Ledger.setBalance b owner kind a) account denom =
      if account = owner ∧ denom = kind then a else balance b account denom := by
  have hshown : ∀ stored : MemoryLedger,
      balance (⟨stored, b.failPoints⟩ : FaultyLedger) account denom =
        balance stored account denom :=
    fun _ => if_neg (Bool.eq_false_iff.1 h)
  have hbefore : balance b account denom = balance b.stored account denom := hshown b.stored
  rw [hbefore]
  exact (hshown _).trans (LawfulLedger.balance_setBalance b.stored owner account kind denom a)

theorem sub?_zero {coin : Coin} (h : coin.isZero = false) :
    Amount.sub? 0 coin.amount = none :=
  if_neg (coin.not_le_zero h)

/-- **No coin gets out of a drained account** on the ledger itself. -/
theorem refused_of_draws {b : FaultyLedger} {j : Posting} (h : j.Draws b.drained) :
    ∃ e, j.post b = .error e := by
  cases h with
  | @pay source target coin hempty hzero =>
      refine ⟨.insufficientFunds source coin 0, ?_⟩
      rw [Posting.post, Posting.operation, outcome_of_settled (Ledger.send_eq_settled ..), hzero]
      simp only [Bool.false_eq_true, if_false, balance_of_drained hempty, sub?_zero hzero]
  | @burn name coin hempty hzero =>
      rw [Posting.post, Posting.operation, outcome_of_settled (Ledger.burn_eq_settled ..)]
      cases (permissions b name).burner with
      | false => exact ⟨_, rfl⟩
      | true =>
          refine ⟨.insufficientFunds (.ofModule name) coin 0, ?_⟩
          rw [hzero]
          simp only [Bool.not_true, Bool.false_eq_true, if_false, balance_of_drained hempty,
            sub?_zero hzero]

variable {γ : Type} [Ledger γ]

/-- Whether a ledger shows what a ledger with failures shows, but for the accounts that this is made
to show as empty. -/
structure Shades (drained : Address → Bool) (b : FaultyLedger) (c : γ) : Prop where
  failing : b.drained = drained
  balance : ∀ account denom, drained account = false →
    Ledger.balance c account denom = Ledger.balance b account denom
  supply : ∀ denom, Ledger.supply c denom = Ledger.supply b denom
  permissions : ∀ name, Ledger.permissions c name = Ledger.permissions b name

/-- Whether two operations both succeed, and leave such ledgers, or both fail. -/
inductive SameFate (drained : Address → Bool) :
    Except LedgerError FaultyLedger → Except LedgerError γ → Prop where
  | ok {b : FaultyLedger} {c : γ} (shades : Shades drained b c) : SameFate drained (.ok b) (.ok c)
  | error (e f : LedgerError) : SameFate drained (.error e) (.error f)

namespace Shades

variable [LawfulLedger γ] {drained : Address → Bool} {b : FaultyLedger} {c : γ}

/-- What is written to a drained account makes no difference. -/
theorem setBalance (h : Shades drained b c) {owner : Address} {kind : Denom} {a a' : Amount}
    (ha : drained owner = false → a' = a) :
    Shades drained (Ledger.setBalance b owner kind a) (Ledger.setBalance c owner kind a') where
  failing := h.failing
  balance account denom hseen := by
    have hb : b.drained account = false := by
      rw [h.failing]
      exact hseen
    rw [LawfulLedger.balance_setBalance, FaultyLedger.balance_setBalance hb]
    by_cases hkey : account = owner ∧ denom = kind
    · rw [if_pos hkey, if_pos hkey]
      exact ha (hkey.1 ▸ hseen)
    · rw [if_neg hkey, if_neg hkey]
      exact h.balance account denom hseen
  supply denom := by
    rw [LawfulLedger.supply_setBalance]
    exact h.supply denom
  permissions name := by
    rw [LawfulLedger.permissions_setBalance]
    exact h.permissions name

theorem setSupply (h : Shades drained b c) (kind : Denom) (a : Amount) :
    Shades drained (Ledger.setSupply b kind a) (Ledger.setSupply c kind a) where
  failing := h.failing
  balance account denom hseen := by
    rw [LawfulLedger.balance_setSupply]
    exact h.balance account denom hseen
  supply denom := by
    rw [LawfulLedger.supply_setSupply]
    show _ = Ledger.supply (Ledger.setSupply b.stored kind a) denom
    rw [LawfulLedger.supply_setSupply, h.supply denom]
    rfl
  permissions name := by
    rw [LawfulLedger.permissions_setSupply]
    exact h.permissions name

theorem credit (h : Shades drained b c) (account : Address) (coin : Coin) :
    Shades drained (Ledger.credit b account coin) (Ledger.credit c account coin) :=
  h.setBalance fun hseen => by rw [h.balance account coin.denom hseen]

/-! ### Operations that draw on no drained account -/

theorem send (h : Shades drained b c) (source target : Address) {coin : Coin}
    (hseen : coin.isZero = false → drained source = false) :
    SameFate drained ((Ledger.send source target coin).outcome b)
      ((Ledger.send source target coin).outcome c) := by
  rw [outcome_of_settled (Ledger.send_eq_settled ..),
    outcome_of_settled (Ledger.send_eq_settled ..)]
  cases hzero : coin.isZero with
  | true => exact .ok h
  | false =>
      simp only [Bool.false_eq_true, if_false]
      rw [h.balance source coin.denom (hseen hzero)]
      cases (Ledger.balance b source coin.denom).sub? coin.amount with
      | none => exact .error _ _
      | some remaining => exact .ok ((h.setBalance fun _ => rfl).credit target coin)

theorem mint (h : Shades drained b c) (name : String) (coin : Coin) :
    SameFate drained ((Ledger.mint name coin).outcome b)
      ((Ledger.mint name coin).outcome c) := by
  rw [outcome_of_settled (Ledger.mint_eq_settled ..),
    outcome_of_settled (Ledger.mint_eq_settled ..), h.permissions]
  cases (Ledger.permissions b name).minter with
  | false => exact .error _ _
  | true =>
      cases coin.isZero with
      | true => exact .ok h
      | false =>
          have hcredited := h.credit (.ofModule name) coin
          simp only [Bool.not_true, Bool.false_eq_true, if_false, hcredited.supply]
          exact .ok (hcredited.setSupply _ _)

theorem burn (h : Shades drained b c) (name : String) {coin : Coin}
    (hseen : coin.isZero = false → drained (.ofModule name) = false) :
    SameFate drained ((Ledger.burn name coin).outcome b)
      ((Ledger.burn name coin).outcome c) := by
  rw [outcome_of_settled (Ledger.burn_eq_settled ..),
    outcome_of_settled (Ledger.burn_eq_settled ..), h.permissions]
  cases (Ledger.permissions b name).burner with
  | false => exact .error _ _
  | true =>
      cases hzero : coin.isZero with
      | true => exact .ok h
      | false =>
          simp only [Bool.not_true, Bool.false_eq_true, if_false, h.supply]
          rw [h.balance _ coin.denom (hseen hzero)]
          cases (Ledger.balance b (.ofModule name) coin.denom).sub? coin.amount with
          | none => exact .error _ _
          | some remaining =>
              cases (Ledger.supply b coin.denom).sub? coin.amount with
              | none => exact .error _ _
              | some left => exact .ok ((h.setBalance fun _ => rfl).setSupply _ _)

/-! ### Postings and scripts -/

/-- **A posting fares alike** unless it draws on a drained account and the account can pay. -/
theorem post (h : Shades drained b c) {j : Posting} (hj : j.Draws drained → ¬ j.Covered c) :
    SameFate drained (j.post b) (j.post c) := by
  by_cases hdraws : j.Draws drained
  · obtain ⟨e, he⟩ := refused_of_draws (b := b) (h.failing ▸ hdraws)
    cases hc : j.post c with
    | ok d => exact absurd ((Posting.exists_post_iff j).1 ⟨d, hc⟩) (hj hdraws)
    | error f =>
        rw [he]
        exact .error e f
  · cases j with
    | pay source target coin =>
        refine h.send source target fun hzero => ?_
        exact Bool.eq_false_iff.2 fun hempty => hdraws (.pay hempty hzero)
    | mint name coin => exact h.mint name coin
    | burn name coin =>
        refine h.burn name fun hzero => ?_
        exact Bool.eq_false_iff.2 fun hempty => hdraws (.burn hempty hzero)

/-- What is left after a posting was tried is alike, too. -/
theorem run (h : Shades drained b c) {j : Posting} (hj : j.Draws drained → ¬ j.Covered c) :
    (j.command.run b).1.isOk = (j.command.run c).1.isOk ∧
      Shades drained (j.command.run b).2 (j.command.run c).2 := by
  have hfate := h.post hj
  rw [Posting.run_command, Posting.run_command]
  generalize j.post b = first, j.post c = second at hfate ⊢
  cases hfate with
  | ok hshades => exact ⟨rfl, hshades⟩
  | error e f => exact ⟨rfl, h⟩

/-- **Which scripts fare alike.** -/
theorem outcomes_eq_iff (h : Shades drained b c) (script : List Posting) :
    Posting.outcomes c script = Posting.outcomes b script ↔ Posting.Starves drained c script := by
  induction script generalizing b c with
  | nil => exact ⟨fun _ => trivial, fun _ => rfl⟩
  | cons j script ih =>
      by_cases hpays : j.Draws drained ∧ j.Covered c
      · -- the ledger refuses what the branch carries out
        obtain ⟨e, he⟩ := refused_of_draws (b := b) (h.failing ▸ hpays.1)
        obtain ⟨d, hd⟩ := (Posting.exists_post_iff j).2 hpays.2
        constructor
        · intro hsame
          have hhead := (List.cons.inj hsame).1
          rw [Posting.run_command, Posting.run_command, he, hd] at hhead
          cases hhead
        · rintro ⟨hrefused, -⟩
          exact absurd hpays.2 (hrefused hpays.1)
      · have hrefused : j.Draws drained → ¬ j.Covered c := fun hdraws hcovered =>
          hpays ⟨hdraws, hcovered⟩
        obtain ⟨hhead, hshades⟩ := h.run hrefused
        constructor
        · intro hsame
          exact ⟨hrefused, (ih hshades).1 (List.cons.inj hsame).2⟩
        · rintro ⟨-, hrest⟩
          exact List.cons_eq_cons.2 ⟨hhead.symm, (ih hshades).2 hrest⟩

end Shades

/-- A branch that was just opened shows what the ledger behind it shows. -/
theorem shades_opened (b : FaultyLedger) (n : Nat) :
    Shades b.drained b (Branched.opened b n) where
  failing := rfl
  balance account denom _ := Branched.balance_opened b n account denom
  supply denom := congrFun (congrArg LedgerView.supply (Branched.view_opened b n)) denom
  permissions name := congrFun (congrArg LedgerView.permissions (Branched.view_opened b n)) name

/-- **How injected failures show through branches.** Behind any number of branches a script of
payments, mintings and burnings fares, operation by operation, as on the ledger itself exactly if no
drained account can pay on the innermost branch when an operation draws on it. Failures to mint and
to burn always show, and drained accounts do as long as they are given nothing. -/
theorem failures_through_branches (b : FaultyLedger) (n : Nat) (script : List Posting) :
    let branch := Branched.opened b (n + 1)
    (Posting.outcomes branch script = Posting.outcomes b script ↔
      Posting.Starves b.drained branch script) ∧
      ((∀ j ∈ script, ¬ j.Feeds b.drained) →
        Posting.outcomes branch script = Posting.outcomes b script) := by
  have hsame := (shades_opened b (n + 1)).outcomes_eq_iff script
  refine ⟨hsame, fun hfed => hsame.2 (Posting.starves_of_not_fed ?_ hfed)⟩
  intro account denom hdrained
  -- what was just opened shows nothing for a drained account
  rw [Branched.balance_opened, balance_of_drained hdrained]

end FaultyLedger

namespace Sample

def ore : Denom :=
  ⟨"ore", by decide⟩

/-- The second user has some ore, and the first user appears to have none. -/
def robbed : FaultyLedger :=
  ((∅ : FaultyLedger).fund (user 2) ⟨ore, 10⟩).failOn (.drained (user 1))

/-- The first user would pay without having been given anything. -/
def unfunded : List Posting :=
  [.pay (user 1) (user 2) ⟨ore, 1⟩, .pay (user 2) (user 3) ⟨ore, 1⟩]

/-- The first user passes on what the second one gave. -/
def passing : List Posting :=
  [.pay (user 2) (user 1) ⟨ore, 5⟩, .pay (user 1) (user 3) ⟨ore, 1⟩]

end Sample

namespace FaultyLedger

/-- What a drained account was not given it cannot pay behind two branches either. -/
theorem failures_through_branches_sample :
    Posting.outcomes (Branched.opened Sample.robbed 2) Sample.unfunded = [false, true] := by
  have hfed : ∀ j ∈ Sample.unfunded, ¬ j.Feeds Sample.robbed.drained := by
    intro j hj hfeeds
    simp only [Sample.unfunded, List.mem_cons, List.not_mem_nil, or_false] at hj
    rcases hj with rfl | rfl
    · cases hfeeds with
      | pay hempty hzero => exact absurd hempty (by decide)
    · cases hfeeds with
      | pay hempty hzero => exact absurd hempty (by decide)
  rw [(failures_through_branches Sample.robbed 1 Sample.unfunded).2 hfed]
  decide

/-- **A branch may hide a failure.** A drained account that is given something in a branch can pay
there, but not on the ledger itself. -/
theorem failures_hidden_by_branch :
    ¬ ∀ (b : FaultyLedger) (n : Nat) (script : List Posting),
      Posting.outcomes (Branched.opened b n) script = Posting.outcomes b script := by
  intro htransparent
  have hsame := htransparent Sample.robbed 1 Sample.passing
  have hbranch : Posting.outcomes (Branched.opened Sample.robbed 1) Sample.passing =
      [true, true] := by
    decide
  have hdirect : Posting.outcomes Sample.robbed Sample.passing = [true, false] := by
    decide
  rw [hbranch, hdirect] at hsame
  exact absurd hsame (by decide)

end FaultyLedger

end Interchain
