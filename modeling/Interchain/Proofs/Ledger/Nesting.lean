import Interchain.Ledger.Command
import Interchain.Proofs.Ledger.Canonical

/-!
# Scripts on nested branches

A script plays commands and opens branches, each with a script of its own, that are kept or
dropped. What a script amounts to is a list of commands: those of the branches that are kept stand
in their places, and those of the branches that are dropped are left out (`Script.inlined`). Running
the script gives the answers and the ledger that playing these commands directly gives
(`Script.run_eq_play`).

A point of a script is a place that its run passes through, outside or inside a branch. At every
point the innermost branch shows what the commands up to there, played directly, lead to, and what
the script started from stays as it was behind the open branches. `branch_refines_direct` puts this
together for a script that is run inside a branch, over a ledger at any depth.
-/

set_option autoImplicit false

namespace Interchain

open Ledger

/-! ## Commands -/

namespace LedgerCommand

variable {β γ : Type} [Ledger β] [Ledger γ]

/-- What a ledger says to a command. -/
abbrev Answer := Except LedgerError LedgerReply

/-- The answers to commands that are played one after the other, and the ledger after them. -/
def play (b : β) : List LedgerCommand → List Answer × β
  | [] => ([], b)
  | command :: commands =>
      let next := play (command.run b).2 commands
      ((command.run b).1 :: next.1, next.2)

theorem play_append (b : β) (first second : List LedgerCommand) :
    play b (first ++ second) =
      ((play b first).1 ++ (play (play b first).2 second).1, (play (play b first).2 second).2) := by
  induction first generalizing b with
  | nil => rfl
  | cons command first ih => simp only [List.cons_append, play, ih]

omit [Ledger β] [Ledger γ] in
/-- The answer to an operation that comes to something, and the ledger as it was if that is a
refusal. -/
def settle (b : β) : Except LedgerError β → Answer × β
  | .ok after => (.ok .done, after)
  | .error error => (.error error, b)

omit [Ledger β] in
/-- **Operations that leave no trace when refused** are told by what they come to. -/
theorem perform_eq_settle (operation : LedgerOperation β Unit) [operation.Atomic] (b : β) :
    perform b operation = settle b (operation.outcome b) := by
  rw [perform, EStateM.run, Attempt.Atomic.run_eq operation b]
  cases operation.outcome b with
  | ok after => rfl
  | error error => rfl

/-- A posting is such an operation. -/
theorem perform_operation (b : β) (j : Posting) : perform b j.operation = settle b (j.post b) :=
  perform_eq_settle j.operation b

omit [Ledger β] [Ledger γ] in
theorem map_perform {f : β → γ} {b : β} {x : LedgerOperation β Unit} {y : LedgerOperation γ Unit}
    [x.Atomic] [y.Atomic] (h : (x.outcome b).map f = y.outcome (f b)) :
    perform (f b) y = ((perform b x).1, f (perform b x).2) := by
  rw [perform_eq_settle, perform_eq_settle, ← h]
  cases x.outcome b with
  | ok after => rfl
  | error error => rfl

/-- **A command is answered alike on both sides of a map of ledgers.** -/
theorem map_run {f : β → γ} (hf : Morphism f) (b : β) (command : LedgerCommand) :
    command.run (f b) = ((command.run b).1, f (command.run b).2) := by
  cases command with
  | send source target coin => exact map_perform (hf.map_send b source target coin)
  | sendToModule source name coin => exact map_perform (hf.map_send b source (.ofModule name) coin)
  | sendFromModule name target coin =>
      exact map_perform (hf.map_send b (.ofModule name) target coin)
  | mint name coin => exact map_perform (hf.map_mint b name coin)
  | burn name coin => exact map_perform (hf.map_burn b name coin)
  | setBalance account denom a => rw [run, ← hf.map_setBalance]; rfl
  | setSupply denom a => rw [run, ← hf.map_setSupply]; rfl
  | balance account denom => rw [run, hf.balance_eq]; rfl
  | supply denom => rw [run, hf.supply_eq]; rfl
  | permissions name => rw [run, hf.permissions_eq]; rfl

theorem map_play {f : β → γ} (hf : Morphism f) (b : β) (commands : List LedgerCommand) :
    play (f b) commands = ((play b commands).1, f (play b commands).2) := by
  induction commands generalizing b with
  | nil => rfl
  | cons command commands ih => simp only [play, map_run hf, ih]

/-- What is answered depends on what the ledger shows. -/
theorem answer_eq_of_view [LawfulLedger β] [LawfulLedger γ] {b : β} {c : γ} (h : view b = view c)
    (command : LedgerCommand) : (command.run b).1 = (command.run c).1 := by
  have hb := congrArg Prod.fst (map_run morphism_view b command)
  have hc := congrArg Prod.fst (map_run morphism_view c command)
  rw [← hb, h, hc]

variable [LawfulLedger β] {P : β → Prop}

omit [Ledger β] [LawfulLedger β] in
theorem stable_perform {b : β} (hb : P b) {x : LedgerOperation β Unit} [x.Atomic]
    (hx : ∀ c, x.outcome b = .ok c → P c) : P (perform b x).2 := by
  rw [perform_eq_settle]
  cases houtcome : x.outcome b with
  | ok c => exact hx c houtcome
  | error error => exact hb

/-- No command ends what no write ends. -/
theorem stable_run (hP : Stable P) {b : β} (hb : P b) (command : LedgerCommand) :
    P (command.run b).2 := by
  cases command with
  | send source target coin =>
      exact stable_perform hb fun _ h => hP.posting hb (j := .pay source target coin) h
  | sendToModule source name coin =>
      exact stable_perform hb fun _ h => hP.posting hb (j := .pay source (.ofModule name) coin) h
  | sendFromModule name target coin =>
      exact stable_perform hb fun _ h => hP.posting hb (j := .pay (.ofModule name) target coin) h
  | mint name coin => exact stable_perform hb fun _ h => hP.posting hb (j := .mint name coin) h
  | burn name coin => exact stable_perform hb fun _ h => hP.posting hb (j := .burn name coin) h
  | setBalance account denom a => exact hP.setBalance hb account denom a
  | setSupply denom a => exact hP.setSupply hb denom a
  | balance account denom => exact hb
  | supply denom => exact hb
  | permissions name => exact hb

theorem stable_play (hP : Stable P) {b : β} (hb : P b) (commands : List LedgerCommand) :
    P (play b commands).2 := by
  induction commands generalizing b with
  | nil => exact hb
  | cons command commands ih => exact ih (stable_run hP hb command)

end LedgerCommand

/-- No write to a branch reaches its parent. -/
theorem Branch.stable_parent {β : Type} [Ledger β] (b : β) :
    Stable fun c : Branch β => c.parent = b where
  setBalance h _ _ _ := h
  setSupply h _ _ := h

/-! ## Nested branches -/

/-- A ledger at a depth: the stored ledger, or a branch of the ledger one level up. -/
def Nested : Nat → Type
  | 0 => MemoryLedger
  | n + 1 => Branch (Nested n)

namespace Nested

variable {n : Nat}

instance ledger : (n : Nat) → Ledger (Nested n)
  | 0 => inferInstanceAs (Ledger MemoryLedger)
  | n + 1 =>
      let _ := ledger n
      inferInstanceAs (Ledger (Branch (Nested n)))

instance canonical : (n : Nat) → CanonicalLedger (Nested n)
  | 0 => inferInstanceAs (CanonicalLedger MemoryLedger)
  | n + 1 => inferInstanceAs (CanonicalLedger (Branch (Nested n)))

/-- A branch one level down. -/
def start (b : Nested n) : Nested (n + 1) :=
  Branch.start b

def parent (b : Nested (n + 1)) : Nested n :=
  Branch.parent b

def commit (b : Nested (n + 1)) : Nested n :=
  Branch.commit b

@[simp]
theorem parent_start (b : Nested n) : b.start.parent = b :=
  rfl

@[simp]
theorem commit_start (b : Nested n) : b.start.commit = b :=
  rfl

theorem morphism_commit : Morphism (commit : Nested (n + 1) → Nested n) :=
  Branch.morphism_commit

theorem stable_parent (b : Nested n) : Stable fun c : Nested (n + 1) => c.parent = b :=
  Branch.stable_parent b

end Nested

/-! ## Scripts -/

/-- Commands and branches, each branch with a script of its own, in the order they are taken. -/
inductive Script where
  | done
  | play (command : LedgerCommand) (rest : Script)
  | branch (inner : Script) (kept : Bool) (rest : Script)

namespace Script

open LedgerCommand (Answer)

/-- The commands that a script amounts to: a branch that is kept stands for its own commands, and
one that is dropped for none. -/
def inlined : Script → List LedgerCommand
  | done => []
  | play command rest => command :: rest.inlined
  | branch inner kept rest => (if kept then inner.inlined else []) ++ rest.inlined

/-- The answers to the commands of a script, those in dropped branches left out, and the ledger
after it. -/
def run : Script → {n : Nat} → Nested n → List Answer × Nested n
  | done, _, b => ([], b)
  | play command rest, _, b =>
      let next := rest.run (command.run b).2
      ((command.run b).1 :: next.1, next.2)
  | branch inner kept rest, _, b =>
      let within := inner.run b.start
      let next := rest.run (if kept then within.2.commit else within.2.parent)
      ((if kept then within.1 else []) ++ next.1, next.2)

variable {n : Nat}

/-- **A script does what the commands do that it amounts to.** -/
theorem run_eq_play (script : Script) (b : Nested n) :
    script.run b = LedgerCommand.play b script.inlined := by
  induction script generalizing n with
  | done => rfl
  | play command rest ih => simp only [run, inlined, LedgerCommand.play, ih]
  | branch inner kept rest ihInner ihRest =>
      simp only [run, inlined, ihInner, ihRest]
      cases kept with
      | true =>
          -- the branch was committed, so its commands might have been played on the ledger
          have hmap := LedgerCommand.map_play Nested.morphism_commit b.start inner.inlined
          rw [Nested.commit_start] at hmap
          simp only [if_true, LedgerCommand.play_append, hmap]
      | false =>
          -- the branch was dropped, and nothing had reached the ledger
          have hparent := LedgerCommand.stable_play (Nested.stable_parent b) b.parent_start
            inner.inlined
          simp only [Bool.false_eq_true, if_false, List.nil_append, hparent]

/-! ## Points -/

/-- A place in a script that a run passes through. -/
inductive Point : Script → Type where
  | here (script : Script) : Point script
  | played {command : LedgerCommand} {rest : Script} (p : Point rest) : Point (play command rest)
  | inside {inner : Script} {kept : Bool} {rest : Script} (p : Point inner) :
      Point (branch inner kept rest)
  | behind {inner : Script} {kept : Bool} {rest : Script} (p : Point rest) :
      Point (branch inner kept rest)

namespace Point

/-- The depth of the innermost branch, for a script that is run at a depth. -/
def level : {script : Script} → script.Point → Nat → Nat
  | _, here _, n => n
  | _, played p, n => p.level n
  | _, inside p, n => p.level (n + 1)
  | _, behind p, n => p.level n

/-- The innermost branch when the run gets to the point. -/
def state : {script : Script} → (p : script.Point) → {n : Nat} → Nested n → Nested (p.level n)
  | _, here _, _, b => b
  | play command _, played p, _, b => p.state (command.run b).2
  | _, inside p, _, b => p.state b.start
  | branch inner kept _, behind p, _, b =>
      p.state (if kept then (inner.run b.start).2.commit else (inner.run b.start).2.parent)

/-- The commands before the point, those in branches that were dropped left out. -/
def inlined : {script : Script} → script.Point → List LedgerCommand
  | _, here _ => []
  | play command _, played p => command :: p.inlined
  | _, inside p => p.inlined
  | branch inner kept _, behind p => (if kept then inner.inlined else []) ++ p.inlined

/-- What is left if all branches that are open at the point are committed. -/
def settled : {script : Script} → (p : script.Point) → {n : Nat} → Nested (p.level n) → Nested n
  | _, here _, _, c => c
  | _, played p, _, c => p.settled c
  | _, inside p, _, c => (p.settled c).commit
  | _, behind p, _, c => p.settled c

/-- What is left if all branches that are open at the point are dropped. -/
def origin : {script : Script} → (p : script.Point) → {n : Nat} → Nested (p.level n) → Nested n
  | _, here _, _, c => c
  | _, played p, _, c => p.origin c
  | _, inside p, _, c => (p.origin c).parent
  | _, behind p, _, c => p.origin c

/-- The open branches show what is left if they are committed. -/
theorem view_settled {script : Script} (p : script.Point) (c : Nested (p.level n)) :
    view (p.settled c) = view c := by
  induction p generalizing n with
  | here => rfl
  | played p ih => exact ih c
  | inside p ih => exact (Nested.morphism_commit.view_eq _).trans (ih c)
  | behind p ih => exact ih c

/-- **Up to every point the script did what the commands do that it amounts to.** -/
theorem settled_state {script : Script} (p : script.Point) (b : Nested n) :
    p.settled (p.state b) = (LedgerCommand.play b p.inlined).2 := by
  induction p generalizing n with
  | here => rfl
  | @played command rest p ih => exact ih (command.run b).2
  | @inside inner kept rest p ih =>
      have hmap := LedgerCommand.map_play Nested.morphism_commit b.start p.inlined
      rw [Nested.commit_start] at hmap
      show (p.settled (p.state b.start)).commit = _
      rw [ih, inlined, hmap]
  | @behind inner kept rest p ih =>
      have hrun := run_eq_play (branch inner kept done) b
      simp only [run, Script.inlined, List.append_nil] at hrun
      show p.settled (p.state _) = _
      rw [ih, inlined, LedgerCommand.play_append, ← hrun]

/-- Behind the open branches the parent stays as it was. -/
theorem parent_origin {script : Script} (p : script.Point) (c : Nested (n + 1)) :
    (p.origin (p.state c)).parent = c.parent := by
  induction p generalizing n with
  | here => rfl
  | @played command rest p ih =>
      show (p.origin (p.state (command.run c).2)).parent = _
      rw [ih]
      exact LedgerCommand.stable_run (Nested.stable_parent c.parent) rfl command
  | @inside inner kept rest p ih =>
      show (p.origin (p.state c.start)).parent.parent = _
      rw [ih, Nested.parent_start]
  | @behind inner kept rest p ih =>
      have hrun := run_eq_play (branch inner kept done) c
      have hparent := LedgerCommand.stable_play (Nested.stable_parent c.parent) rfl
        (branch inner kept done).inlined
      rw [← hrun] at hparent
      show (p.origin (p.state _)).parent = _
      rw [ih]
      exact hparent

end Point

end Script

/-! ## Branches and direct execution -/

/-- Whether a ledger shows what another one shows, and answers every command as the other does. -/
structure Nested.Mirrors {m n : Nat} (c : Nested m) (b : Nested n) : Prop where
  balance : ∀ account denom, Ledger.balance c account denom = Ledger.balance b account denom
  supply : ∀ denom, Ledger.supply c denom = Ledger.supply b denom
  answer : ∀ command : LedgerCommand, (command.run c).1 = (command.run b).1

/-- All that a ledger answers is in its view. -/
theorem Nested.mirrors_of_view {m n : Nat} {c : Nested m} {b : Nested n} (h : view c = view b) :
    c.Mirrors b where
  balance account denom := congrFun (congrFun (congrArg LedgerView.balance h) account) denom
  supply denom := congrFun (congrArg LedgerView.supply h) denom
  answer := LedgerCommand.answer_eq_of_view h

/-- **Branches refine direct execution.** To run a script inside a branch and to commit it gives
the answers, and exactly the ledger, that come of playing on the ledger itself the commands that
the script amounts to: those of inner branches that are kept inlined, those of inner branches that
are dropped skipped. At every point of the script, however deep, the innermost branch mirrors the
ledger on which the commands before the point were played, and committing all open branches would
give exactly that ledger, while the ledger behind the branch is the one it was opened on. So
dropping the branch, at the end or at any point, leaves that ledger as it was. -/
theorem branch_refines_direct (n : Nat) (b : Nested n) (script : Script) :
    let branch := script.run b.start
    LedgerCommand.play b script.inlined = (branch.1, branch.2.commit) ∧
      branch.2.parent = b ∧
      ∀ p : script.Point,
        let direct := (LedgerCommand.play b p.inlined).2
        (p.state b.start).Mirrors direct ∧
          (p.settled (p.state b.start)).commit = direct ∧
          (p.origin (p.state b.start)).parent = b := by
  have hmap := LedgerCommand.map_play Nested.morphism_commit b.start
  rw [Nested.commit_start] at hmap
  refine ⟨?_, ?_, fun p => ?_⟩
  · rw [script.run_eq_play, hmap]
  · rw [script.run_eq_play]
    exact LedgerCommand.stable_play (Nested.stable_parent b) b.parent_start script.inlined
  · have hsettled : (p.settled (p.state b.start)).commit = (LedgerCommand.play b p.inlined).2 := by
      rw [p.settled_state, hmap]
    refine ⟨Nested.mirrors_of_view ?_, hsettled, p.parent_origin b.start⟩
    rw [← hsettled, Nested.morphism_commit.view_eq, p.view_settled]

end Interchain
