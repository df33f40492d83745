import Interchain.Amount
import Interchain.Proofs.Numeral
import Mathlib.Data.Nat.Digits.Defs

/-!
# Texts of amounts

Amounts come and go as texts. The texts that are read are the non-empty runs of ASCII digits, and
one is read as the number that its digits make in base ten (`Amount.parse_eq_ok_iff`). Each amount
has one text of its own, and all others that are read as it have zeros in front of that one
(`Amount.parse_eq_ok_iff_zeros`). `Amount.texts_of_amounts` collects what holds of reading and
writing, and that the texts are ordered as the amounts are.
-/

set_option autoImplicit false

namespace Interchain

namespace Numeral

/-- The number with these digits in base ten; the last digit counts ones. -/
def inBaseTen (cs : List Char) : Nat :=
  Nat.ofDigits 10 (cs.reverse.map digit)

/-- The digits are read from the left, as they would be from the right. -/
theorem value_eq_inBaseTen (cs : List Char) : value cs = inBaseTen cs := by
  calc value cs
      = cs.foldl (fun n c => 10 * n + digit c) 0 := Nat.ofDigitChars_eq_foldl
    _ = cs.reverse.foldr (fun c n => 10 * n + digit c) 0 := List.foldr_reverse.symm
    _ = (cs.reverse.map digit).foldr (fun d n => 10 * n + d) 0 := by rw [List.foldr_map]
    _ = inBaseTen cs := by
        rw [inBaseTen, Nat.ofDigits_eq_foldr]
        simp only [Nat.cast_id, Nat.add_comm]

theorem isNumeral_iff {cs : List Char} :
    isNumeral cs = true ↔ cs ≠ [] ∧ ∀ c ∈ cs, c.isDigit = true := by
  simp [isNumeral]

end Numeral

namespace Amount

/-- Whether a text is a non-empty run of ASCII digits. -/
structure Written (s : String) : Prop where
  nonempty : s ≠ ""
  digits : ∀ c ∈ s.toList, c.isDigit = true

theorem written_iff {s : String} : Written s ↔ Numeral.isNumeral s.toList = true := by
  rw [Numeral.isNumeral_iff, ne_eq, String.toList_eq_nil_iff]
  exact ⟨fun h => ⟨h.nonempty, h.digits⟩, fun h => ⟨h.1, h.2⟩⟩

/-- **What is read, and as what.** -/
theorem parse_eq_ok_iff {s : String} {a : Amount} :
    parse s = .ok a ↔ Written s ∧ a = Numeral.inBaseTen s.toList := by
  rw [written_iff, ← Numeral.value_eq_inBaseTen, parse, Numeral.value?]
  by_cases h : Numeral.isNumeral s.toList = true
  · simp [h, eq_comm]
  · simp [h]

/-- What is not read is named in the error. -/
theorem parse_eq_error_iff {s : String} {e : FormatError} :
    parse s = .error e ↔ ¬ Written s ∧ e = .amount s := by
  rw [written_iff, parse, Numeral.value?]
  by_cases h : Numeral.isNumeral s.toList = true
  · simp [h]
  · simp [h, eq_comm]

theorem toList_toString (a : Amount) : (toString a).toList = Nat.toDigits 10 a := by
  rw [Nat.toString_eq_ofList_toDigits, String.toList_ofList]

/-- **Only zeros in front tell the texts of an amount apart.** -/
theorem parse_eq_ok_iff_zeros {s : String} {a : Amount} :
    parse s = .ok a ↔ ∃ n, s.toList = List.replicate n '0' ++ (toString a).toList := by
  rw [parse_eq_ok_iff, ← Numeral.value_eq_inBaseTen, toList_toString]
  constructor
  · rintro ⟨hwritten, rfl⟩
    exact Numeral.exists_zeros (mt String.toList_eq_nil_iff.1 hwritten.nonempty) hwritten.digits
  · rintro ⟨n, hn⟩
    have hdigits := Numeral.isNumeral_iff.1 (Numeral.isNumeral_toDigits a)
    rw [written_iff, Numeral.isNumeral_iff, hn, Numeral.value_zeros, Numeral.value_toDigits]
    refine ⟨⟨fun hnil => hdigits.1 (List.append_eq_nil_iff.1 hnil).2, fun c hc => ?_⟩, rfl⟩
    rcases List.mem_append.1 hc with hzero | hdigit
    · rw [List.eq_of_mem_replicate hzero]
      rfl
    · exact hdigits.2 c hdigit

/-- The text of an amount has no zero in front, unless it is the zero. -/
theorem head?_toString (a : Amount) :
    (toString a).toList.head? ≠ some '0' ∨ toString a = "0" := by
  by_cases h : (toString a).toList.head? = some '0'
  · right
    rw [toList_toString] at h
    rw [Nat.toString_eq_ofList_toDigits, Numeral.toDigits_of_head? h]
  · exact .inl h

/-- **Texts of amounts.** Exactly the non-empty runs of ASCII digits are read, each as its value in
base ten, and any other text is refused under its name. What an amount is written as is read as that
amount. The texts that are read as an amount are what it is written as, with any number of zeros in
front, and itself it is written without any. Amounts are ordered as what they are written as, first
by length and then by the characters. -/
theorem texts_of_amounts :
    (∀ s a, parse s = .ok a ↔ Written s ∧ a = Numeral.inBaseTen s.toList) ∧
      (∀ s e, parse s = .error e ↔ ¬ Written s ∧ e = .amount s) ∧
      (∀ a : Amount, parse (toString a) = .ok a) ∧
      (∀ (s : String) (a : Amount),
        parse s = .ok a ↔ ∃ n, s.toList = List.replicate n '0' ++ (toString a).toList) ∧
      (∀ a : Amount, (toString a).toList.head? ≠ some '0' ∨ toString a = "0") ∧
      ∀ a b : Amount, compare a b =
        (compare (toString a).length (toString b).length).then
          (compare (toString a) (toString b)) :=
  ⟨fun _ _ => parse_eq_ok_iff, fun _ _ => parse_eq_error_iff, parse_toString,
    fun _ _ => parse_eq_ok_iff_zeros, head?_toString, Numeral.compare_eq_toString⟩

end Amount

end Interchain
