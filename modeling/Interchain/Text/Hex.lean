/-!
# Hexadecimal text of bytes

Two digits a byte, the high half first. Addresses use the lower-case spelling, voucher
denominations the upper-case one.
-/

set_option autoImplicit false

namespace Interchain.Text.Hex

/-- The two lower-case digits of a byte. -/
def pair (b : UInt8) : List Char :=
  [Nat.digitChar (b.toNat / 16), Nat.digitChar (b.toNat % 16)]

/-- The lower-case hexadecimal spelling of a byte sequence. -/
def lower (bs : List UInt8) : List Char :=
  bs.flatMap pair

/-- The upper-case hexadecimal spelling of a byte sequence. -/
def upper (bs : List UInt8) : List Char :=
  (lower bs).map Char.toUpper

@[simp]
theorem length_lower (bs : List UInt8) : (lower bs).length = 2 * bs.length := by
  induction bs with
  | nil => rfl
  | cons b bs ih =>
      have h : lower (b :: bs) = pair b ++ lower bs := rfl
      rw [h, List.length_append, ih, List.length_cons]
      show 2 + 2 * bs.length = 2 * (bs.length + 1)
      omega

@[simp]
theorem length_upper (bs : List UInt8) : (upper bs).length = 2 * bs.length := by
  simp [upper]

/-- A property of the sixteen digits holds of every character of a spelling. -/
theorem lower_all {p : Char → Bool} (h : ∀ n < 16, p (Nat.digitChar n) = true)
    (bs : List UInt8) : (lower bs).all p = true := by
  rw [List.all_eq_true]
  intro c hc
  obtain ⟨b, -, hb⟩ := List.mem_flatMap.1 hc
  have hlt : b.toNat < 256 := b.toNat_lt
  simp only [pair, List.mem_cons, List.not_mem_nil, or_false] at hb
  rcases hb with rfl | rfl
  · exact h _ (by omega)
  · exact h _ (by omega)

theorem upper_all {p : Char → Bool} (h : ∀ n < 16, p (Nat.digitChar n).toUpper = true)
    (bs : List UInt8) : (upper bs).all p = true := by
  rw [upper, List.all_map]
  exact lower_all h bs

end Interchain.Text.Hex
