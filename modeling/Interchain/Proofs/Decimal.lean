import Interchain.Decimal
import Interchain.Proofs.Amount
import Mathlib.Algebra.Field.Rat
import Mathlib.Data.List.TakeWhile
import Mathlib.Tactic.FieldSimp
import Mathlib.Tactic.Ring

/-!
# Texts of decimals

A decimal stands for a rational number, and no two decimals for the same (`Decimal.toRat_inj`). The
texts that are read are a run of digits and perhaps a point with up to eighteen more digits behind
it, and no digit gets lost: such a text is read as exactly the number that it spells
(`Decimal.parse_eq_ok_iff`). To write a decimal out, its fraction is filled up with zeros in front;
to read it, a fraction is filled up behind. So what was written is read back
(`Decimal.parse_toString`), and decimals are told apart by what they are written as.
`Decimal.texts_of_decimals` collects this.
-/

set_option autoImplicit false

namespace Interchain

namespace Decimal

/-! ## Numbers -/

/-- The number that the decimal stands for. -/
def toRat (d : Decimal) : ℚ :=
  d.atoms / Numeral.tenPow places

theorem tenPow_ne_zero (n : Nat) : (Numeral.tenPow n : ℚ) ≠ 0 :=
  Nat.cast_ne_zero.2 (Nat.ne_of_gt (Numeral.tenPow_pos n))

theorem toRat_inj {d e : Decimal} : d.toRat = e.toRat ↔ d = e := by
  constructor
  · intro h
    rw [toRat, toRat, div_left_inj' (tenPow_ne_zero places), Nat.cast_inj] at h
    exact congrArg mk h
  · rintro rfl
    rfl

/-- The digits behind the point count as a fraction of their own length. -/
theorem toRat_ofDigits (whole : List Char) {frac : List Char} (h : frac.length ≤ places) :
    (ofDigits whole frac).toRat =
      Numeral.value whole + Numeral.value frac / Numeral.tenPow frac.length := by
  have hplaces : Numeral.tenPow places =
      Numeral.tenPow frac.length * Numeral.tenPow (places - frac.length) := by
    rw [← Numeral.tenPow_add, Nat.add_sub_cancel' h]
  have hfrac := tenPow_ne_zero frac.length
  have hrest := tenPow_ne_zero (places - frac.length)
  simp only [toRat, ofDigits, one, hplaces]
  push_cast
  field_simp

/-- The fraction makes less than one, so the digits in front of the point are what is left without
it. -/
theorem truncate_ofDigits (whole : List Char) {frac : List Char}
    (hdigits : ∀ c ∈ frac, c.isDigit = true) (h : frac.length ≤ places) :
    (ofDigits whole frac).truncate = Numeral.value whole := by
  have hsmall : Numeral.value frac * Numeral.tenPow (places - frac.length) < one := by
    have hone : Numeral.tenPow frac.length * Numeral.tenPow (places - frac.length) = one := by
      rw [← Numeral.tenPow_add, Nat.add_sub_cancel' h, one]
    rw [← hone]
    exact Nat.mul_lt_mul_of_pos_right (Numeral.value_lt_tenPow hdigits) (Numeral.tenPow_pos _)
  have hpos : 0 < one := Numeral.tenPow_pos places
  rw [truncate, ofDigits, Nat.mul_comm, Nat.mul_add_div hpos, Nat.div_eq_of_lt hsmall, Nat.add_zero]

/-! ## Reading -/

/-- Whether a text has these digits in front of a point, one at least, and these behind it, up to
eighteen of them. Without digits behind it the point may be missing. -/
structure Written (s : String) (whole frac : List Char) : Prop where
  text : s.toList = whole ∧ frac = [] ∨ s.toList = whole ++ '.' :: frac
  nonempty : whole ≠ []
  whole_digits : ∀ c ∈ whole, c.isDigit = true
  frac_digits : ∀ c ∈ frac, c.isDigit = true
  short : frac.length ≤ 18

/-- A text falls apart at its first point. -/
theorem split_at_point (cs : List Char) :
    cs = cs.takeWhile (· ≠ '.') ∧ (cs.dropWhile (· ≠ '.')).drop 1 = [] ∨
      cs = cs.takeWhile (· ≠ '.') ++ '.' :: (cs.dropWhile (· ≠ '.')).drop 1 := by
  have hsplit := (List.takeWhile_append_dropWhile (p := (· ≠ '.')) (l := cs)).symm
  cases hdrop : cs.dropWhile (· ≠ '.') with
  | nil =>
      rw [hdrop, List.append_nil] at hsplit
      exact .inl ⟨hsplit, rfl⟩
  | cons c rest =>
      have hpoint : c = '.' := by
        have hstop := List.head?_dropWhile_not (· ≠ '.') cs
        rw [hdrop] at hstop
        simpa using hstop
      rw [hdrop, hpoint] at hsplit
      exact .inr hsplit

/-- Digits are no points, so the parts of a text are found. -/
theorem Written.split {s : String} {whole frac : List Char} (h : Written s whole frac) :
    s.toList.takeWhile (· ≠ '.') = whole ∧ (s.toList.dropWhile (· ≠ '.')).drop 1 = frac := by
  have hwhole : ∀ c ∈ whole, decide (c ≠ '.') = true := fun c hc =>
    decide_eq_true (Numeral.ne_of_isDigit (h.whole_digits c hc) (by decide))
  rcases h.text with ⟨htext, rfl⟩ | htext
  · rw [htext, List.takeWhile_eq_self_iff.2 hwhole, List.dropWhile_eq_nil_iff.2 hwhole]
    exact ⟨rfl, rfl⟩
  · rw [htext, List.takeWhile_append_of_pos hwhole, List.dropWhile_append_of_pos hwhole,
      List.takeWhile_cons_of_neg (by decide), List.dropWhile_cons_of_neg (by decide)]
    exact ⟨List.append_nil whole, rfl⟩

/-- The two parts of a text that is read. -/
theorem written_iff {s : String} : (∃ whole frac, Written s whole frac) ↔
    (Numeral.isNumeral (s.toList.takeWhile (· ≠ '.')) &&
      ((s.toList.dropWhile (· ≠ '.')).drop 1).all Char.isDigit &&
      ((s.toList.dropWhile (· ≠ '.')).drop 1).length ≤ places) = true := by
  simp only [Bool.and_eq_true, Numeral.isNumeral_iff, List.all_eq_true, decide_eq_true_eq]
  constructor
  · rintro ⟨whole, frac, h⟩
    obtain ⟨hwhole, hfrac⟩ := h.split
    rw [hwhole, hfrac]
    exact ⟨⟨⟨h.nonempty, h.whole_digits⟩, h.frac_digits⟩, h.short⟩
  · rintro ⟨⟨⟨hne, hwhole⟩, hfrac⟩, hshort⟩
    exact ⟨_, _, split_at_point s.toList, hne, hwhole, hfrac, hshort⟩

theorem parse_of_written {s : String} {whole frac : List Char} (h : Written s whole frac) :
    parse s = .ok (ofDigits whole frac) := by
  obtain ⟨hwhole, hfrac⟩ := h.split
  have hread := written_iff.1 ⟨whole, frac, h⟩
  rw [hwhole, hfrac] at hread
  rw [parse, hwhole, hfrac, if_pos hread]

/-- What is not read is named in the error. -/
theorem parse_eq_error_iff {s : String} {e : FormatError} :
    parse s = .error e ↔ (¬ ∃ whole frac, Written s whole frac) ∧ e = .decimal s := by
  constructor
  · intro h
    have hunread : ¬ ∃ whole frac, Written s whole frac := by
      rintro ⟨whole, frac, hwritten⟩
      rw [parse_of_written hwritten] at h
      cases h
    refine ⟨hunread, ?_⟩
    rw [parse, if_neg (mt written_iff.2 hunread)] at h
    cases h
    rfl
  · rintro ⟨hunread, rfl⟩
    rw [parse]
    exact if_neg (mt written_iff.2 hunread)

/-- **What is read, and as what.** -/
theorem parse_eq_ok_iff {s : String} {d : Decimal} :
    parse s = .ok d ↔ ∃ whole frac, Written s whole frac ∧ d = ofDigits whole frac := by
  constructor
  · intro h
    by_cases hwritten : ∃ whole frac, Written s whole frac
    · obtain ⟨whole, frac, hwritten⟩ := hwritten
      rw [parse_of_written hwritten] at h
      cases h
      exact ⟨whole, frac, hwritten, rfl⟩
    · rw [parse_eq_error_iff.2 ⟨hwritten, rfl⟩] at h
      cases h
  · rintro ⟨whole, frac, hwritten, rfl⟩
    exact parse_of_written hwritten

/-! ## Writing -/

/-- A fraction has no more digits than there are places. -/
theorem length_fraction (d : Decimal) : (Nat.toDigits 10 d.fraction).length ≤ places := by
  rw [Nat.length_toDigits_le_iff (by decide) (by decide)]
  exact Nat.mod_lt d.atoms (Numeral.tenPow_pos places)

theorem written_toString (d : Decimal) : Written (toString d) (Nat.toDigits 10 d.truncate)
    ((Nat.toDigits 10 d.fraction).leftpad places '0') where
  text := .inr String.toList_ofList
  nonempty := Nat.toDigits_ne_nil
  whole_digits _ hc := Numeral.isDigit_of_mem_toDigits hc
  frac_digits c hc := by
    rcases List.mem_append.1 hc with hzero | hdigit
    · rw [List.eq_of_mem_replicate hzero]
      rfl
    · exact Numeral.isDigit_of_mem_toDigits hdigit
  short := by
    rw [List.length_leftpad]
    exact Nat.max_le.2 ⟨Nat.le_refl _, length_fraction d⟩

/-- Zeros in front of the fraction fill up its places and add nothing. -/
theorem ofDigits_toString (d : Decimal) : ofDigits (Nat.toDigits 10 d.truncate)
    ((Nat.toDigits 10 d.fraction).leftpad places '0') = d := by
  have hfilled : ((Nat.toDigits 10 d.fraction).leftpad places '0').length = places := by
    rw [List.length_leftpad, Nat.max_eq_left (length_fraction d)]
  have hvalue : Numeral.value ((Nat.toDigits 10 d.fraction).leftpad places '0') = d.fraction := by
    rw [List.leftpad, Numeral.value_zeros, Numeral.value_toDigits]
  rw [ofDigits, hfilled, hvalue, Numeral.value_toDigits, Nat.sub_self]
  have hatoms : d.truncate * one + d.fraction * Numeral.tenPow 0 = d.atoms := by
    rw [show Numeral.tenPow 0 = 1 from rfl, Nat.mul_one, truncate, fraction, Nat.mul_comm]
    exact Nat.div_add_mod d.atoms one
  rw [hatoms]

/-- **What is written is read back.** -/
theorem parse_toString (d : Decimal) : parse (toString d) = .ok d := by
  rw [parse_of_written (written_toString d), ofDigits_toString]

theorem toString_inj {d e : Decimal} : toString d = toString e ↔ d = e := by
  constructor
  · intro h
    have hread := parse_toString d
    rw [h, parse_toString] at hread
    exact (Except.ok.inj hread).symm
  · rintro rfl
    rfl

/-- **Texts of decimals.** What a decimal is written as is read as that decimal. Exactly the texts
of one or more digits, with perhaps one point and up to eighteen digits behind, are read. Such a
text is read as the very number that it spells, and without the fraction that is what its first
digits make. Any other text is refused under its name. Two decimals are the same exactly if they
are written alike. -/
theorem texts_of_decimals :
    (∀ d : Decimal, parse (toString d) = .ok d) ∧
      (∀ s d, parse s = .ok d ↔ ∃ whole frac, Written s whole frac ∧
        d.toRat = Numeral.inBaseTen whole +
          Numeral.inBaseTen frac / Numeral.tenPow frac.length ∧
        d.truncate = Numeral.inBaseTen whole) ∧
      (∀ s e, parse s = .error e ↔
        (¬ ∃ whole frac, Written s whole frac) ∧ e = .decimal s) ∧
      ∀ d e : Decimal, toString d = toString e ↔ d = e := by
  refine ⟨parse_toString, fun s d => ?_, fun s e => parse_eq_error_iff, fun d e => toString_inj⟩
  rw [parse_eq_ok_iff]
  constructor
  · rintro ⟨whole, frac, hwritten, rfl⟩
    refine ⟨whole, frac, hwritten, ?_, ?_⟩
    · rw [toRat_ofDigits whole hwritten.short, Numeral.value_eq_inBaseTen,
        Numeral.value_eq_inBaseTen]
    · rw [truncate_ofDigits whole hwritten.frac_digits hwritten.short, Numeral.value_eq_inBaseTen]
  · rintro ⟨whole, frac, hwritten, hnumber, -⟩
    refine ⟨whole, frac, hwritten, toRat_inj.1 ?_⟩
    rw [hnumber, toRat_ofDigits whole hwritten.short, Numeral.value_eq_inBaseTen,
      Numeral.value_eq_inBaseTen]

end Decimal

end Interchain
