import Interchain.Numeral

/-!
# The digits of a number

No number but zero is written with a zero in front (`eq_zero_of_head?_toDigits`), and every numeral
is the number that it stands for, written out behind some zeros (`exists_zeros`). Digits behind
digits count as their places say (`value_append`). The order of numbers is the order of their
texts, the shorter one first and texts of one length by their characters (`compare_eq_toString`).
-/

set_option autoImplicit false

namespace Interchain.Numeral

theorem toNat_of_isDigit {c : Char} (h : c.isDigit = true) : 48 ≤ c.toNat ∧ c.toNat ≤ 57 := by
  simp only [Char.isDigit, Bool.and_eq_true, decide_eq_true_eq] at h
  exact ⟨UInt32.le_iff_toNat_le.1 h.1, UInt32.le_iff_toNat_le.1 h.2⟩

theorem ne_of_isDigit {c d : Char} (hc : c.isDigit = true) (hd : d.isDigit = false) : c ≠ d := by
  rintro rfl
  rw [hc] at hd
  cases hd

theorem isDigit_of_mem_toDigits {n : Nat} {c : Char} (h : c ∈ Nat.toDigits 10 n) :
    c.isDigit = true :=
  Nat.isDigit_of_mem_toDigits (by decide) (by decide) h

/-- A number that is written with a zero in front is zero. -/
theorem eq_zero_of_head?_toDigits {n : Nat} (h : (Nat.toDigits 10 n).head? = some '0') :
    n = 0 := by
  induction n using Nat.strongRecOn with
  | ind n ih =>
      by_cases hn : n < 10
      · rw [Nat.toDigits_of_lt_base hn] at h
        have hdigit : ∀ k < 10, Nat.digitChar k = '0' → k = 0 := by decide
        exact hdigit n hn (Option.some.inj h)
      · -- the digits in front of the last one are those of a smaller number
        obtain ⟨c, cs, hcs⟩ : ∃ c cs, Nat.toDigits 10 (n / 10) = c :: cs :=
          List.exists_cons_of_ne_nil Nat.toDigits_ne_nil
        rw [Nat.toDigits_of_base_le (by decide) (by omega), hcs] at h
        have hzero := ih (n / 10) (by omega) (by rw [hcs]; exact h)
        omega

theorem toDigits_of_head? {n : Nat} (h : (Nat.toDigits 10 n).head? = some '0') :
    Nat.toDigits 10 n = ['0'] := by
  rw [eq_zero_of_head?_toDigits h]
  rfl

/-- The number that a digit stands for. -/
def digit (c : Char) : Nat :=
  c.toNat - '0'.toNat

theorem toNat_eq_of_isDigit {c : Char} (h : c.isDigit = true) : c.toNat = 48 + digit c := by
  have hrange := toNat_of_isDigit h
  have hzero : '0'.toNat = 48 := by decide
  rw [digit, hzero]
  omega

theorem digit_lt_ten {c : Char} (h : c.isDigit = true) : digit c < 10 := by
  have hrange := toNat_of_isDigit h
  have hvalue := toNat_eq_of_isDigit h
  omega

theorem digitChar_digit {c : Char} (h : c.isDigit = true) : Nat.digitChar (digit c) = c := by
  apply Char.toNat_inj.1
  rw [Nat.toNat_digitChar_of_lt_ten (digit_lt_ten h), toNat_eq_of_isDigit h]

theorem digit_eq_zero_iff {c : Char} (h : c.isDigit = true) : digit c = 0 ↔ c = '0' := by
  constructor
  · intro hzero
    rw [← digitChar_digit h, hzero]
    rfl
  · rintro rfl
    rfl

/-! ## Digits and their value -/

theorem value_append (cs ds : List Char) :
    value (cs ++ ds) = value cs * tenPow ds.length + value ds := by
  calc value (cs ++ ds)
      = Nat.ofDigitChars 10 ds (value cs) := Nat.ofDigitChars_append 0
    _ = tenPow ds.length * value cs + value ds := Nat.ofDigitChars_eq_ofDigitChars_zero
    _ = value cs * tenPow ds.length + value ds := by rw [Nat.mul_comm]

theorem value_singleton (c : Char) : value [c] = digit c :=
  Nat.zero_add _

theorem value_cons (c : Char) (cs : List Char) :
    value (c :: cs) = digit c * tenPow cs.length + value cs := by
  rw [← List.singleton_append, value_append, value_singleton]

theorem value_replicate_zero (n : Nat) : value (List.replicate n '0') = 0 := by
  rw [value, Nat.ofDigitChars_replicate_zero, Nat.mul_zero]

/-- So many digits stand for no more than that many nines. -/
theorem value_lt_tenPow {cs : List Char} (h : ∀ c ∈ cs, c.isDigit = true) :
    value cs < tenPow cs.length := by
  induction cs with
  | nil => exact tenPow_pos 0
  | cons c cs ih =>
      have hdigit := digit_lt_ten (h c List.mem_cons_self)
      have hrest := ih fun d hd => h d (List.mem_cons_of_mem c hd)
      have hscaled : (digit c + 1) * tenPow cs.length ≤ 10 * tenPow cs.length :=
        Nat.mul_le_mul_right _ hdigit
      rw [value_cons, List.length_cons, tenPow_succ, Nat.mul_comm (tenPow cs.length)]
      rw [Nat.succ_mul] at hscaled
      omega

/-- Digits behind those of a positive number are the digits of the number that all of them make. -/
theorem toDigits_append {n : Nat} (hn : 0 < n) {cs : List Char} (h : ∀ c ∈ cs, c.isDigit = true) :
    Nat.toDigits 10 n ++ cs = Nat.toDigits 10 (Nat.ofDigitChars 10 cs n) := by
  induction cs generalizing n with
  | nil => rw [List.append_nil, Nat.ofDigitChars_nil]
  | cons c cs ih =>
      have hc := h c List.mem_cons_self
      have hlast : Nat.toDigits 10 n ++ [c] = Nat.toDigits 10 (10 * n + digit c) := by
        rw [← Nat.toDigits_append_toDigits (by decide) hn (digit_lt_ten hc),
          Nat.toDigits_of_lt_base (digit_lt_ten hc), digitChar_digit hc]
      calc Nat.toDigits 10 n ++ c :: cs
          = (Nat.toDigits 10 n ++ [c]) ++ cs := by simp
        _ = Nat.toDigits 10 (10 * n + digit c) ++ cs := by rw [hlast]
        _ = Nat.toDigits 10 (Nat.ofDigitChars 10 cs (10 * n + digit c)) :=
            ih (by omega) fun d hd => h d (List.mem_cons_of_mem c hd)
        _ = Nat.toDigits 10 (Nat.ofDigitChars 10 (c :: cs) n) := by
            rw [Nat.ofDigitChars_cons, digit]

/-- **A numeral is its number written out, with zeros in front.** -/
theorem exists_zeros {cs : List Char} (hne : cs ≠ []) (h : ∀ c ∈ cs, c.isDigit = true) :
    ∃ n, cs = List.replicate n '0' ++ Nat.toDigits 10 (value cs) := by
  induction cs with
  | nil => exact absurd rfl hne
  | cons c cs ih =>
      have hc := h c List.mem_cons_self
      have hrest : ∀ d ∈ cs, d.isDigit = true := fun d hd => h d (List.mem_cons_of_mem c hd)
      by_cases hzero : c = '0'
      · subst hzero
        have hvalue : value ('0' :: cs) = value cs := by
          rw [value_cons, (digit_eq_zero_iff hc).2 rfl, Nat.zero_mul, Nat.zero_add]
        by_cases hcs : cs = []
        · subst hcs
          exact ⟨0, rfl⟩
        · obtain ⟨n, hn⟩ := ih hcs hrest
          refine ⟨n + 1, ?_⟩
          rw [hvalue, List.replicate_succ, List.cons_append, ← hn]
      · -- the first digit is not zero, so that all digits count
        have hpos : 0 < digit c := Nat.pos_of_ne_zero (mt (digit_eq_zero_iff hc).1 hzero)
        have hfirst : Nat.toDigits 10 (digit c) = [c] := by
          rw [Nat.toDigits_of_lt_base (digit_lt_ten hc), digitChar_digit hc]
        have hvalue : value (c :: cs) = Nat.ofDigitChars 10 cs (digit c) := by
          rw [value, Nat.ofDigitChars_cons, Nat.mul_zero, Nat.zero_add, digit]
        refine ⟨0, ?_⟩
        rw [hvalue, ← toDigits_append hpos hrest, hfirst]
        rfl

theorem value_zeros (n : Nat) (cs : List Char) :
    value (List.replicate n '0' ++ cs) = value cs := by
  rw [value_append, value_replicate_zero, Nat.zero_mul, Nat.zero_add]

/-! ## The order of numerals -/

/-- Of equally many digits, those of the smaller number come first. -/
theorem lt_of_value_lt {cs ds : List Char} (hcs : ∀ c ∈ cs, c.isDigit = true)
    (hds : ∀ d ∈ ds, d.isDigit = true) (hlength : cs.length = ds.length)
    (h : value cs < value ds) : cs < ds := by
  induction cs generalizing ds with
  | nil =>
      rw [List.length_eq_zero_iff.1 hlength.symm] at h
      exact absurd h (Nat.lt_irrefl 0)
  | cons c cs ih =>
      cases ds with
      | nil => exact absurd hlength (Nat.succ_ne_zero _)
      | cons d ds =>
          have hc := hcs c List.mem_cons_self
          have hd := hds d List.mem_cons_self
          have hcs' : ∀ e ∈ cs, e.isDigit = true := fun e he => hcs e (List.mem_cons_of_mem c he)
          have hds' : ∀ e ∈ ds, e.isDigit = true := fun e he => hds e (List.mem_cons_of_mem d he)
          have hlength : cs.length = ds.length := Nat.succ.inj hlength
          have hsmall := value_lt_tenPow hds'
          rw [value_cons, value_cons, hlength] at h
          rw [List.cons_lt_cons_iff]
          rcases Nat.lt_trichotomy (digit c) (digit d) with hlt | heq | hgt
          · left
            rw [Char.lt_def, UInt32.lt_iff_toNat_lt]
            show c.toNat < d.toNat
            rw [toNat_eq_of_isDigit hc, toNat_eq_of_isDigit hd]
            omega
          · right
            rw [heq] at h
            refine ⟨?_, ih hcs' hds' hlength (Nat.lt_of_add_lt_add_left h)⟩
            rw [← digitChar_digit hc, heq, digitChar_digit hd]
          · -- one more in front outweighs all that is behind
            have hscaled : (digit d + 1) * tenPow ds.length ≤ digit c * tenPow ds.length :=
              Nat.mul_le_mul_right _ hgt
            rw [Nat.succ_mul] at hscaled
            omega

/-- A number that is written with fewer digits is smaller. -/
theorem lt_of_length_lt {m n : Nat}
    (h : (Nat.toDigits 10 m).length < (Nat.toDigits 10 n).length) : m < n := by
  have hpos : 0 < (Nat.toDigits 10 m).length := Nat.length_toDigits_pos
  have hm := (Nat.length_toDigits_le_iff (by decide) hpos).1
    (Nat.le_refl (Nat.toDigits 10 m).length)
  refine Nat.lt_of_lt_of_le hm (Nat.le_of_not_lt fun hn => ?_)
  exact absurd h (Nat.not_lt_of_le ((Nat.length_toDigits_le_iff (by decide) hpos).2 hn))

/-- **The texts of smaller numbers are shorter, or as long and come first.** -/
theorem toString_before {m n : Nat} (h : m < n) :
    (toString m).length < (toString n).length ∨
      (toString m).length = (toString n).length ∧ toString m < toString n := by
  simp only [Nat.toString_eq_ofList_toDigits, String.length_ofList]
  rcases Nat.lt_trichotomy (Nat.toDigits 10 m).length (Nat.toDigits 10 n).length with
    hlt | heq | hgt
  · exact .inl hlt
  · refine .inr ⟨heq, ?_⟩
    show (String.ofList (Nat.toDigits 10 m)).toList < (String.ofList (Nat.toDigits 10 n)).toList
    rw [String.toList_ofList, String.toList_ofList]
    refine lt_of_value_lt (fun _ => isDigit_of_mem_toDigits) (fun _ => isDigit_of_mem_toDigits)
      heq ?_
    rw [value_toDigits, value_toDigits]
    exact h
  · exact absurd (lt_of_length_lt hgt) (Nat.not_lt_of_gt h)

/-- The order of numbers is that of their texts, first by length and then by the characters. -/
theorem compare_eq_toString (m n : Nat) : compare m n =
    (compare (toString m).length (toString n).length).then (compare (toString m) (toString n)) := by
  have hbefore : ∀ {m n : Nat}, m < n →
      (compare (toString m).length (toString n).length).then (compare (toString m) (toString n)) =
        .lt := by
    intro m n h
    rcases toString_before h with hlt | ⟨heq, hlt⟩
    · rw [Nat.compare_eq_lt.2 hlt, Ordering.lt_then]
    · rw [heq, Nat.compare_eq_eq.2 rfl, Ordering.eq_then]
      exact if_pos hlt
  rcases Nat.lt_trichotomy m n with hlt | rfl | hgt
  · rw [hbefore hlt, Nat.compare_eq_lt.2 hlt]
  · simp
  · rw [Nat.compare_eq_gt.2 hgt, Std.OrientedOrd.eq_swap (a := (toString m).length),
      Std.OrientedOrd.eq_swap (a := toString m), ← Ordering.swap_then, hbefore hgt]
    rfl

end Interchain.Numeral
