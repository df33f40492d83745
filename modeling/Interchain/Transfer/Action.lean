import Interchain.Event
import Interchain.Ledger.Branch
import Interchain.Transfer.Error

/-!
# Units of work

Transfers work on a stage: a transport keeper, a ledger and the log of events. An action either
yields a value or fails with a cause; a failed action may have got part of its work done, so
either way the stage after it counts. `Action.atomically` makes the ledger and the log of an action
atomic: it runs on a branch of the ledger with a log of its own, and only success carries both
over. The keeper is not branched.
-/

set_option autoImplicit false

namespace Interchain

/-- What actions work on. -/
structure Stage (κ β : Type) where
  keeper : κ
  ledger : β
  events : EventLog

/-- A step of work that may fail. -/
abbrev Action (κ β α : Type) := EStateM TransferError (Stage κ β) α

namespace Action

variable {κ β α : Type}

/-- Appends an event to the log. -/
def emit (kind : String) (attributes : List (String × String)) : Action κ β Unit :=
  modify fun s => { s with events := s.events ++ [⟨kind, attributes⟩] }

/-- An operation of the ledger. -/
def onLedger (operation : LedgerOperation β Unit) : Action κ β Unit := fun s =>
  match operation.run s.ledger with
  | .ok _ ledger => .ok () { s with ledger }
  | .error error ledger => .error (.ledger error) { s with ledger }

/-- A text that is read as a value, or refused. -/
def parsed : Except FormatError α → Action κ β α
  | .ok a => pure a
  | .error error => throw (.malformed error)

/-- Runs an action on a branch of the ledger and with a log of its own. On success the branch is
committed and the log appended; on failure ledger and log are as they were. -/
def atomically [Ledger β] (action : Action κ (Branch β) α) : Action κ β α := fun s =>
  match action.run ⟨s.keeper, .start s.ledger, []⟩ with
  | .ok a t => .ok a ⟨t.keeper, t.ledger.commit, s.events ++ t.events⟩
  | .error error t => .error error { s with keeper := t.keeper }

end Action

/-- The name of the transfer module, whose account keeps what was converted. -/
def transferModule : String := "transfer"

end Interchain
