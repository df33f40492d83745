import Interchain.Proofs.Ledger.Journal
import Interchain.Transfer.Action

/-!
# Inverting units of work

How an action came to its result. An action that is put together from steps yields a value exactly
if each step did, and it fails exactly if one step failed after the steps before it had succeeded.
The lemmas are equivalences, so that `simp` takes an action apart into its steps.

`atomically_eq_ok_iff` and `atomically_eq_error_iff` say what a unit of work leaves behind:
the writes of a committed branch, or the ledger and the log as they were.
-/

set_option autoImplicit false

namespace Interchain

/-- The account of the transfer module, which keeps what was converted. -/
def custodian : Address :=
  .ofModule transferModule

theorem ofModule_transferModule : Address.ofModule transferModule = custodian :=
  rfl

namespace Action

variable {κ β α γ : Type} {s t : Stage κ β}

/-! ## Steps that succeed -/

@[simp]
theorem bind_eq_ok_iff {x : Action κ β α} {f : α → Action κ β γ} {c : γ} :
    (x >>= f) s = .ok c t ↔ ∃ a u, x s = .ok a u ∧ f a u = .ok c t := by
  show EStateM.bind x f s = .ok c t ↔ _
  rw [EStateM.bind]
  cases x s with
  | ok a u => simp [and_assoc]
  | error e u => simp

@[simp]
theorem pure_eq_ok_iff {a b : α} : (pure a : Action κ β α) s = .ok b t ↔ b = a ∧ t = s := by
  show EStateM.Result.ok a s = EStateM.Result.ok b t ↔ _
  simp [eq_comm]

@[simp]
theorem throw_eq_ok_iff {e : TransferError} {a : α} :
    (throw e : Action κ β α) s = .ok a t ↔ False := by
  show EStateM.Result.error e s = EStateM.Result.ok a t ↔ _
  simp

/-- Reading the stage first. -/
@[simp high]
theorem get_bind_eq_ok_iff {f : Stage κ β → Action κ β α} {a : α} :
    (get >>= f) s = .ok a t ↔ f s s = .ok a t :=
  Iff.rfl

@[simp]
theorem modify_eq_ok_iff {f : Stage κ β → Stage κ β} {a : PUnit} :
    (modify f : Action κ β PUnit) s = .ok a t ↔ t = f s := by
  show EStateM.Result.ok _ (f s) = EStateM.Result.ok a t ↔ _
  simp [eq_comm]

@[simp]
theorem emit_eq_ok_iff {kind : String} {attributes : List (String × String)} {a : Unit} :
    (emit kind attributes : Action κ β Unit) s = .ok a t ↔
      t = { s with events := s.events ++ [⟨kind, attributes⟩] } :=
  modify_eq_ok_iff

@[simp]
theorem onLedger_eq_ok_iff {operation : LedgerOperation β Unit} {a : Unit} :
    (onLedger operation : Action κ β Unit) s = .ok a t ↔
      ∃ b, operation.outcome s.ledger = .ok b ∧ t = { s with ledger := b } := by
  rw [onLedger, Attempt.outcome]
  cases operation.run s.ledger with
  | ok _ b => simp [eq_comm]
  | error e b => simp

/-- Two operations of the ledger in a row. -/
theorem onLedger_onLedger_eq_ok_iff {first second : LedgerOperation β Unit} {a : Unit} :
    (do onLedger first; onLedger second : Action κ β Unit) s = .ok a t ↔
      ∃ c, (∃ b, first.outcome s.ledger = .ok b ∧ second.outcome b = .ok c) ∧
        t = { s with ledger := c } := by
  simp only [bind_eq_ok_iff, onLedger_eq_ok_iff]
  constructor
  · rintro ⟨-, u, ⟨b, hb, rfl⟩, c, hc, rfl⟩
    exact ⟨c, ⟨b, hb, hc⟩, rfl⟩
  · rintro ⟨c, ⟨b, hb, hc⟩, rfl⟩
    exact ⟨(), _, ⟨b, hb, rfl⟩, c, hc, rfl⟩

@[simp]
theorem parsed_eq_ok_iff {x : Except FormatError α} {a : α} :
    (parsed x : Action κ β α) s = .ok a t ↔ x = .ok a ∧ t = s := by
  cases x with
  | ok b => simp [parsed, eq_comm]
  | error e => simp [parsed]

/-- Once a text is read, what follows works on its value. -/
theorem parsed_ok_bind (a : α) (f : α → Action κ β γ) : (parsed (.ok a) >>= f) = f a :=
  rfl

@[simp]
theorem ofExcept_eq_ok_iff {x : Except TransferError α} {a : α} :
    (MonadExcept.ofExcept x : Action κ β α) s = .ok a t ↔ x = .ok a ∧ t = s := by
  cases x with
  | ok b => simp [MonadExcept.ofExcept, eq_comm]
  | error e => simp [MonadExcept.ofExcept]

@[simp]
theorem ite_eq_ok_iff {p : Prop} [Decidable p] {x y : Action κ β α} {a : α} :
    (if p then x else y) s = .ok a t ↔ (p ∧ x s = .ok a t) ∨ (¬p ∧ y s = .ok a t) := by
  by_cases h : p
  · simp [h]
  · simp [h]

/-- A guard lets the rest of an action run if its condition does not hold. -/
@[simp high]
theorem guard_eq_ok_iff {p : Prop} [Decidable p] {e : TransferError} {f : PUnit → Action κ β α}
    {x : Action κ β α} {a : α} :
    (if p then throw e >>= f else x) s = .ok a t ↔ ¬p ∧ x s = .ok a t := by
  by_cases h : p
  · simp [h]
  · simp [h]

/-- A unit of work that succeeds commits its branch and appends its log. -/
theorem atomically_eq_ok_iff [Ledger β] {x : Action κ (Branch β) α} {a : α} :
    atomically x s = .ok a t ↔
      ∃ u, x ⟨s.keeper, .start s.ledger, []⟩ = .ok a u ∧
        t = ⟨u.keeper, u.ledger.commit, s.events ++ u.events⟩ := by
  rw [atomically, EStateM.run]
  cases x ⟨s.keeper, .start s.ledger, []⟩ with
  | ok b u => simp [and_assoc, eq_comm]
  | error e u => simp

/-! ## Steps that fail -/

@[simp]
theorem bind_eq_error_iff {x : Action κ β α} {f : α → Action κ β γ} {e : TransferError} :
    (x >>= f) s = .error e t ↔
      x s = .error e t ∨ ∃ a u, x s = .ok a u ∧ f a u = .error e t := by
  show EStateM.bind x f s = .error e t ↔ _
  rw [EStateM.bind]
  cases x s with
  | ok a u => simp [and_assoc]
  | error e u => simp

@[simp]
theorem pure_eq_error_iff {a : α} {e : TransferError} :
    (pure a : Action κ β α) s = .error e t ↔ False := by
  show EStateM.Result.ok a s = EStateM.Result.error e t ↔ _
  simp

@[simp]
theorem throw_eq_error_iff {e f : TransferError} :
    (throw e : Action κ β α) s = .error f t ↔ f = e ∧ t = s := by
  show EStateM.Result.error e s = EStateM.Result.error f t ↔ _
  simp [eq_comm]

@[simp high]
theorem get_bind_eq_error_iff {f : Stage κ β → Action κ β α} {e : TransferError} :
    (get >>= f) s = .error e t ↔ f s s = .error e t :=
  Iff.rfl

@[simp]
theorem modify_eq_error_iff {f : Stage κ β → Stage κ β} {e : TransferError} :
    (modify f : Action κ β PUnit) s = .error e t ↔ False := by
  show EStateM.Result.ok _ (f s) = EStateM.Result.error e t ↔ _
  simp

@[simp]
theorem emit_eq_error_iff {kind : String} {attributes : List (String × String)}
    {e : TransferError} : (emit kind attributes : Action κ β Unit) s = .error e t ↔ False :=
  modify_eq_error_iff

@[simp]
theorem onLedger_eq_error_iff {operation : LedgerOperation β Unit} [operation.Atomic]
    {e : TransferError} :
    (onLedger operation : Action κ β Unit) s = .error e t ↔
      ∃ f, operation.outcome s.ledger = .error f ∧ e = .ledger f ∧ t = s := by
  rw [onLedger, EStateM.run, Attempt.Atomic.run_eq operation]
  cases operation.outcome s.ledger with
  | ok b => simp [Attempt.settled]
  | error f =>
      show EStateM.Result.error (.ledger f) s = .error e t ↔ _
      simp [eq_comm]

/-- Operations of the ledger leave the keeper alone. -/
theorem keeper_of_onLedger_onLedger_error {first second : LedgerOperation β Unit} [first.Atomic]
    [second.Atomic] {e : TransferError}
    (h : (do onLedger first; onLedger second : Action κ β Unit) s = .error e t) :
    t.keeper = s.keeper := by
  simp only [bind_eq_error_iff, onLedger_eq_error_iff, onLedger_eq_ok_iff] at h
  rcases h with ⟨_, -, -, rfl⟩ | ⟨-, _, ⟨_, -, rfl⟩, _, -, -, rfl⟩
  · rfl
  · rfl

@[simp]
theorem parsed_eq_error_iff {x : Except FormatError α} {e : TransferError} :
    (parsed x : Action κ β α) s = .error e t ↔ ∃ f, x = .error f ∧ e = .malformed f ∧ t = s := by
  cases x with
  | ok b => simp [parsed]
  | error f => simp [parsed]

@[simp]
theorem ofExcept_eq_error_iff {x : Except TransferError α} {e : TransferError} :
    (MonadExcept.ofExcept x : Action κ β α) s = .error e t ↔ x = .error e ∧ t = s := by
  cases x with
  | ok b => simp [MonadExcept.ofExcept]
  | error f => simp [MonadExcept.ofExcept, eq_comm]

@[simp]
theorem ite_eq_error_iff {p : Prop} [Decidable p] {x y : Action κ β α} {e : TransferError} :
    (if p then x else y) s = .error e t ↔ (p ∧ x s = .error e t) ∨ (¬p ∧ y s = .error e t) := by
  by_cases h : p
  · simp [h]
  · simp [h]

@[simp high]
theorem guard_eq_error_iff {p : Prop} [Decidable p] {e e' : TransferError}
    {f : PUnit → Action κ β α} {x : Action κ β α} :
    (if p then throw e >>= f else x) s = .error e' t ↔
      (p ∧ e' = e ∧ t = s) ∨ (¬p ∧ x s = .error e' t) := by
  by_cases h : p
  · simp [h]
  · simp [h]

/-- A unit of work that fails leaves ledger and log as they were. -/
theorem atomically_eq_error_iff [Ledger β] {x : Action κ (Branch β) α} {e : TransferError} :
    atomically x s = .error e t ↔
      ∃ u, x ⟨s.keeper, .start s.ledger, []⟩ = .error e u ∧ t = { s with keeper := u.keeper } := by
  rw [atomically, EStateM.run]
  cases x ⟨s.keeper, .start s.ledger, []⟩ with
  | ok b u => simp
  | error f u => simp [and_assoc, eq_comm]

/-! ## Trying an action out -/

/-- Whether an action yields a value and leaves a stage that pass a test. -/
def yields (x : Action κ β α) (s : Stage κ β) (test : α → Stage κ β → Bool) : Bool :=
  match x s with
  | .ok a t => test a t
  | .error _ _ => false

theorem yields_iff {x : Action κ β α} {test : α → Stage κ β → Bool} :
    yields x s test = true ↔ ∃ a t, x s = .ok a t ∧ test a t = true := by
  rw [yields]
  cases x s with
  | ok a t =>
      constructor
      · exact fun h => ⟨a, t, rfl, h⟩
      · rintro ⟨_, _, h, htest⟩
        cases h
        exact htest
  | error e t =>
      constructor
      · exact fun h => nomatch h
      · rintro ⟨_, _, h, -⟩
        cases h

end Action

end Interchain
