import Interchain.Attempt

/-!
# Attempts that leave no trace when refused

An attempt is atomic if it leaves the state as it was whenever it is refused. A run that is written
out as `Attempt.settled` shows both, what the attempt comes to and that it is atomic
(`Attempt.outcome_of_settled`, `Attempt.Atomic.of_settled`).
-/

set_option autoImplicit false

namespace Interchain.Attempt

variable {ε σ : Type} {x : Attempt ε σ Unit} {s t : σ} {error : ε}

/-- What reads the state first works on what it read. -/
theorem get_bind {α : Type} (f : σ → Attempt ε σ α) (s : σ) : (get >>= f) s = f s s :=
  rfl

/-- What comes of an attempt that wrote nothing if it was refused. -/
def settled (s : σ) : Except ε σ → EStateM.Result ε σ Unit
  | .ok t => .ok () t
  | .error error => .error error s

/-- Whether a refusal leaves the state as it was. -/
class Atomic (x : Attempt ε σ Unit) : Prop where
  unchanged {s t : σ} {error : ε} : x s = .error error t → t = s

theorem outcome_eq_ok_iff : x.outcome s = .ok t ↔ x s = .ok () t := by
  rw [outcome, EStateM.run]
  cases x s with
  | ok _ u => simp
  | error e u => simp

theorem after_eq_of_ok (h : x.outcome s = .ok t) : x.after s = t := by
  rw [after, EStateM.run, outcome_eq_ok_iff.1 h]

theorem outcome_of_settled {y : Except ε σ} (h : x s = settled s y) : x.outcome s = y := by
  rw [outcome, EStateM.run, h]
  cases y with
  | ok t => rfl
  | error e => rfl

theorem Atomic.of_settled {f : σ → Except ε σ} (h : ∀ s, x s = settled s (f s)) : x.Atomic where
  unchanged {s t error} hx := by
    rw [h s] at hx
    cases hf : f s with
    | ok u =>
        rw [hf] at hx
        cases hx
    | error e =>
        rw [hf] at hx
        cases hx
        rfl

namespace Atomic

/-- The run of an atomic attempt is told by what it comes to. -/
theorem run_eq (x : Attempt ε σ Unit) [x.Atomic] (s : σ) : x s = settled s (x.outcome s) := by
  rw [outcome, EStateM.run]
  cases hx : x s with
  | ok _ u => rfl
  | error e u =>
      rw [unchanged hx]
      rfl

/-- **A refused attempt changes nothing.** -/
theorem after_eq_of_error [x.Atomic] (h : x.outcome s = .error error) : x.after s = s := by
  rw [after, EStateM.run, run_eq x s, h]
  rfl

end Atomic

end Interchain.Attempt
