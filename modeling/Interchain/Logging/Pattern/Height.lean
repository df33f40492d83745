/-!
# Heights of patterns

Patterns nest, and what is too high is refused. Atoms have height zero; parts that are put together
are one higher than the highest of them, unless there is only one.
-/

set_option autoImplicit false

namespace Interchain.Pattern

/-- How high a pattern may be. -/
def maxHeight : Nat :=
  250

/-- The height of what has parts of these heights. -/
def joinHeights : List Nat → Nat
  | [] => 0
  | [h] => h
  | hs => hs.foldl Nat.max 0 + 1

end Interchain.Pattern
