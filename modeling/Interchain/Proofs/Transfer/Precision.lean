import Interchain.Transfer.Precision

/-!
# Rounding in conversions

An amount that loses decimals is rounded down to what the counterpart can express, and what is taken
for it is worth exactly that. The decimal on the way drops digits twice, behind its last place and
behind the point, which comes to dropping them once (`Amount.converted_reduce`). So losing decimals
and getting them are adjoint: an amount of the counterpart is worth no more than a given amount
exactly if it is no more than what the given amount is converted into (`Amount.restore_le_iff`).
`Amount.roundsDown_reduce` collects the laws of conversion.
-/

set_option autoImplicit false

namespace Interchain

/-- What a conversion of an amount has to come to. -/
structure Reduction.RoundsDown (r : Reduction) (a : Amount) (po : Nat) : Prop where
  /-- The amount without its last decimals is sent on. -/
  floor : r.converted = a / Numeral.tenPow po
  /-- What is taken is worth what is sent on. -/
  worth : r.deducted = r.converted * Numeral.tenPow po
  within : r.deducted ≤ a
  /-- It is the greatest amount of the counterpart that is worth no more than the amount. -/
  greatest : ∀ c : Amount, c.restore po ≤ a ↔ c ≤ r.converted
  /-- What stays is the difference, which never runs below zero. -/
  stays : a.sub? r.deducted = some (r.dust a)
  dust : r.dust a = a % Numeral.tenPow po
  small : r.dust a < Numeral.tenPow po
  /-- What was taken is converted without loss. -/
  settled : r.deducted.reduce po = r

namespace Amount

/-! ## Scaling -/

/-- What is restored is scaled up by a power of ten. -/
theorem restore_eq (a : Amount) (po : Nat) : a.restore po = a * Numeral.tenPow po := by
  have hone : 0 < Decimal.one := Numeral.tenPow_pos _
  show a * Decimal.one * Numeral.tenPow po / Decimal.one = a * Numeral.tenPow po
  rw [Nat.mul_right_comm, Nat.mul_div_cancel _ hone]

/-- What is taken is what is sent on, scaled up. -/
theorem deducted_reduce (a : Amount) (po : Nat) :
    (a.reduce po).deducted = (a.reduce po).converted * Numeral.tenPow po :=
  restore_eq _ po

/-- What is sent on is the amount in the precision of the counterpart, rounded down. The digits that
the decimal drops behind its last place do not count. -/
theorem converted_reduce (a : Amount) (po : Nat) :
    (a.reduce po).converted = a / Numeral.tenPow po := by
  have hone : 0 < Decimal.one := Numeral.tenPow_pos _
  show a * Decimal.one / Numeral.tenPow po / Decimal.one = a / Numeral.tenPow po
  rw [Nat.div_div_eq_div_mul, Nat.mul_div_mul_right _ _ hone]

/-- **Getting decimals is adjoint to losing them.** -/
theorem restore_le_iff {a c : Amount} {po : Nat} :
    c.restore po ≤ a ↔ c ≤ (a.reduce po).converted := by
  rw [restore_eq, converted_reduce]
  exact (Nat.le_div_iff_mul_le (Numeral.tenPow_pos po)).symm

/-! ## What is taken and what stays -/

/-- No more is taken than was asked for. -/
theorem deducted_reduce_le (a : Amount) (po : Nat) : (a.reduce po).deducted ≤ a := by
  apply restore_le_iff.2
  exact Nat.le_refl _

/-- What stays are the decimals that were lost. -/
theorem dust_reduce (a : Amount) (po : Nat) :
    (a.reduce po).dust a = a % Numeral.tenPow po := by
  rw [Reduction.dust, deducted_reduce, converted_reduce, ← Nat.mod_eq_sub_div_mul]

/-! ## Conversions in a row -/

/-- **What got decimals loses them again, and nothing else.** -/
theorem reduce_restore (c : Amount) (po : Nat) : (c.restore po).reduce po = ⟨c.restore po, c⟩ := by
  have hconverted : ((c.restore po).reduce po).converted = c := by
    rw [converted_reduce, restore_eq, Nat.mul_div_cancel _ (Numeral.tenPow_pos po)]
  have hdeducted : ((c.restore po).reduce po).deducted = c.restore po := by
    rw [deducted_reduce, hconverted, restore_eq]
  calc (c.restore po).reduce po
      = ⟨((c.restore po).reduce po).deducted, ((c.restore po).reduce po).converted⟩ := rfl
    _ = ⟨c.restore po, c⟩ := by rw [hdeducted, hconverted]

/-- Converting what was taken changes nothing. -/
theorem reduce_deducted (a : Amount) (po : Nat) : (a.reduce po).deducted.reduce po = a.reduce po :=
  reduce_restore _ po

/-- Decimals may be lost in two steps. -/
theorem converted_reduce_add (a : Amount) (po qo : Nat) :
    ((a.reduce po).converted.reduce qo).converted = (a.reduce (po + qo)).converted := by
  simp only [converted_reduce]
  rw [Nat.div_div_eq_div_mul, Numeral.tenPow_add]

/-! ## Amounts that are split -/

/-- Converting two amounts on their own gains nothing over converting their sum. -/
theorem add_converted_le (a b : Amount) (po : Nat) :
    (a.reduce po).converted + (b.reduce po).converted ≤ ((a + b).reduce po).converted := by
  apply restore_le_iff.1
  rw [restore_eq, Nat.add_mul, ← deducted_reduce, ← deducted_reduce]
  exact Nat.add_le_add (deducted_reduce_le a po) (deducted_reduce_le b po)

/-- It loses one unit at most, which the dust of both makes up. -/
theorem converted_add_le (a b : Amount) (po : Nat) :
    ((a + b).reduce po).converted ≤ (a.reduce po).converted + (b.reduce po).converted + 1 := by
  simp only [converted_reduce]
  rw [Nat.add_div (Numeral.tenPow_pos po)]
  split
  · exact Nat.le_refl _
  · exact Nat.le_succ _

/-- **Conversion between precisions is exact floor arithmetic**, for amounts of any size and any
number of decimals. What got decimals loses them again without dust, decimals may be lost in two
steps, and splitting an amount gains nothing and loses one unit at most. -/
theorem roundsDown_reduce (a : Amount) (po : Nat) :
    (a.reduce po).RoundsDown a po ∧
      (∀ c : Amount, (c.restore po).reduce po = ⟨c.restore po, c⟩ ∧
        ((c.restore po).reduce po).dust (c.restore po) = 0) ∧
      (∀ qo : Nat, ((a.reduce po).converted.reduce qo).converted =
        (a.reduce (po + qo)).converted) ∧
      ∀ b : Amount,
        (a.reduce po).converted + (b.reduce po).converted ≤ ((a + b).reduce po).converted ∧
          ((a + b).reduce po).converted ≤
            (a.reduce po).converted + (b.reduce po).converted + 1 := by
  refine ⟨?_, ?_, ?_, ?_⟩
  · have hdust := dust_reduce a po
    exact {
      floor := converted_reduce a po
      worth := deducted_reduce a po
      within := deducted_reduce_le a po
      greatest := fun c => restore_le_iff
      stays := if_pos (deducted_reduce_le a po)
      dust := hdust
      small := by
        rw [hdust]
        exact Nat.mod_lt a (Numeral.tenPow_pos po)
      settled := reduce_deducted a po }
  · intro c
    have hreduce := reduce_restore c po
    refine ⟨hreduce, ?_⟩
    rw [hreduce]
    exact Nat.sub_self _
  · intro qo
    exact converted_reduce_add a po qo
  · intro b
    exact ⟨add_converted_le a b po, converted_add_le a b po⟩

/-- Twenty-four decimals are more than the decimal has places. -/
example : (123999999999999999999999999 : Amount).reduce 24 =
    ⟨123000000000000000000000000, 123⟩ := by
  decide

end Amount

end Interchain
