/-!
# Attempts

An attempt to change a state may be refused. What was written before the refusal is not taken back,
so the state that is left counts either way.
-/

set_option autoImplicit false

namespace Interchain

/-- Work on a state that may be refused at any point, and leaves the state as far as it came. -/
abbrev Attempt (ε σ α : Type) := EStateM ε σ α

namespace Attempt

variable {ε σ : Type}

/-- The state after an attempt that succeeds, or why the attempt is refused. -/
def outcome (x : Attempt ε σ Unit) (s : σ) : Except ε σ :=
  match x.run s with
  | .ok _ t => .ok t
  | .error error _ => .error error

/-- The state that an attempt leaves, whether it succeeds or is refused. -/
def after (x : Attempt ε σ Unit) (s : σ) : σ :=
  match x.run s with
  | .ok _ t => t
  | .error _ t => t

end Attempt

end Interchain
