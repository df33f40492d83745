/-!
# Texts that satisfy a rule

Addresses, denominations and identifiers are texts that follow a rule each. A value of
`Validated rule` carries its text together with the fact that the text follows the rule, so
that two such values are equal exactly when their texts are (`Validated.ext_iff`), and reading
one back from its own text always succeeds (`Validated.ofString?_text`). They are ordered as
their texts are, by code point.
-/

set_option autoImplicit false

namespace Interchain

/-- A text that follows `rule`. -/
@[ext]
structure Validated (rule : String → Bool) where
  text : String
  follows : rule text = true
deriving DecidableEq

namespace Validated

variable {rule : String → Bool}

instance : ToString (Validated rule) := ⟨text⟩

instance : Ord (Validated rule) := ⟨compareOn text⟩

instance : Std.TransOrd (Validated rule) :=
  inferInstanceAs (Std.TransCmp (compareOn (text : Validated rule → String)))

instance : Std.LawfulEqOrd (Validated rule) where
  eq_of_compare h := Validated.ext (Std.LawfulEqOrd.eq_of_compare (α := String) h)

/-- The validated form of a text that follows the rule. -/
def ofString? (s : String) : Option (Validated rule) :=
  if h : rule s = true then some ⟨s, h⟩ else none

theorem ofString?_eq_some_iff {s : String} {v : Validated rule} :
    ofString? s = some v ↔ v.text = s := by
  unfold ofString?
  constructor
  · intro h
    split at h
    · cases h
      rfl
    · cases h
  · rintro rfl
    exact dif_pos v.follows

@[simp]
theorem ofString?_text (v : Validated rule) : ofString? v.text = some v :=
  ofString?_eq_some_iff.2 rfl

theorem ofString?_eq_none_iff {s : String} :
    (ofString? s : Option (Validated rule)) = none ↔ rule s = false := by
  unfold ofString?
  split
  · rename_i h
    simp [h]
  · rename_i h
    simpa using h

end Validated

end Interchain
