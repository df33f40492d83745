import Interchain.Proofs.Json.Grammar

/-!
# Reading numbers

A number is read up to where it cannot go on (`readNumber_of_parts`), and what is read is a
number (`parts_of_readNumber`). Each part of a number has its two lemmas: the whole digits, the
fraction, the exponent.
-/

set_option autoImplicit false

namespace Interchain.Json

/-- Whether no byte with the property `p` stands in front of `rest`. -/
def Halts (p : UInt8 → Bool) (rest : List UInt8) : Prop :=
  ∀ b more, rest = b :: more → p b = false

def isPoint (b : UInt8) : Bool :=
  b = 0x2e

def isExponentLetter (b : UInt8) : Bool :=
  b = 0x65 || b = 0x45

/-- Whether a number in front of `rest` is at its end. -/
def Stops (rest : List UInt8) : Prop :=
  Halts (fun b => isDigit b || isPoint b || isExponentLetter b) rest

theorem halts_nil (p : UInt8 → Bool) : Halts p [] := by
  intro b more h
  cases h

theorem halts_cons {p : UInt8 → Bool} {b : UInt8} (h : p b = false) (more : List UInt8) :
    Halts p (b :: more) := by
  rintro _ _ ⟨⟩
  exact h

theorem Halts.mono {p q : UInt8 → Bool} {rest : List UInt8} (h : Halts p rest)
    (hq : ∀ b, p b = false → q b = false) : Halts q rest :=
  fun b more heq => hq b (h b more heq)

theorem Stops.digit {rest : List UInt8} (h : Stops rest) : Halts isDigit rest :=
  h.mono fun b hb => by simp only [Bool.or_eq_false_iff] at hb; exact hb.1.1

theorem Stops.point {rest : List UInt8} (h : Stops rest) : Halts isPoint rest :=
  h.mono fun b hb => by simp only [Bool.or_eq_false_iff] at hb; exact hb.1.2

theorem Stops.exponentLetter {rest : List UInt8} (h : Stops rest) :
    Halts isExponentLetter rest :=
  h.mono fun b hb => by simp only [Bool.or_eq_false_iff] at hb; exact hb.2

/-! ## Digits -/

theorem dropWhile_digits {ds rest : List UInt8} (hds : ∀ d ∈ ds, isDigit d = true)
    (h : Halts isDigit rest) : (ds ++ rest).dropWhile isDigit = rest := by
  rw [List.dropWhile_append_of_pos hds]
  cases rest with
  | nil => rfl
  | cons b more => rw [List.dropWhile_cons_of_neg (by simp [h b more rfl])]

theorem takeWhile_digits {ds rest : List UInt8} (hds : ∀ d ∈ ds, isDigit d = true)
    (h : Halts isDigit rest) : (ds ++ rest).takeWhile isDigit = ds := by
  rw [List.takeWhile_append_of_pos hds]
  cases rest with
  | nil => exact List.append_nil ds
  | cons b more =>
      rw [List.takeWhile_cons_of_neg (by simp [h b more rfl]), List.append_nil]

/-- A run of digits as the reader cuts it off. -/
theorem exists_digits {d : UInt8} (hd : isDigit d = true) (rest : List UInt8) :
    Digits (d :: rest.takeWhile isDigit) ∧
      d :: rest = d :: rest.takeWhile isDigit ++ rest.dropWhile isDigit := by
  refine ⟨⟨List.cons_ne_nil _ _, ?_⟩, by simp⟩
  intro e he
  rcases List.mem_cons.1 he with rfl | he
  · exact hd
  · exact List.all_eq_true.1 List.all_takeWhile e he

theorem skipDigits_of_digits {ds rest : List UInt8} (hds : Digits ds) (h : Halts isDigit rest) :
    skipDigits (ds ++ rest) = some rest := by
  obtain ⟨hne, hall⟩ := hds
  cases ds with
  | nil => exact absurd rfl hne
  | cons d ds =>
      rw [List.cons_append, skipDigits, if_pos (hall d List.mem_cons_self),
        dropWhile_digits (fun e he => hall e (List.mem_cons_of_mem _ he)) h]

theorem digits_of_skipDigits {bs rest : List UInt8} (h : skipDigits bs = some rest) :
    ∃ ds, Digits ds ∧ bs = ds ++ rest := by
  cases bs with
  | nil => cases h
  | cons d more =>
      by_cases hd : isDigit d
      · rw [skipDigits, if_pos hd] at h
        cases h
        exact ⟨_, exists_digits hd more⟩
      · rw [skipDigits, if_neg hd] at h
        cases h

theorem readWhole_of_whole {ds rest : List UInt8} (hds : Whole ds) (h : Halts isDigit rest) :
    readWhole (ds ++ rest) = some (ds, rest) := by
  obtain ⟨⟨hne, hall⟩, hzero⟩ := hds
  cases ds with
  | nil => exact absurd rfl hne
  | cons d ds =>
      have hds : ∀ e ∈ ds, isDigit e = true := fun e he => hall e (List.mem_cons_of_mem _ he)
      rw [List.cons_append, readWhole]
      by_cases hd : d = 0x30
      · -- a zero is all the whole digits that there are
        subst hd
        cases hzero rfl
        rfl
      · rw [if_neg hd, if_pos (hall d List.mem_cons_self), takeWhile_digits hds h,
          dropWhile_digits hds h]

theorem whole_of_readWhole {bs ds rest : List UInt8} (h : readWhole bs = some (ds, rest)) :
    Whole ds ∧ bs = ds ++ rest := by
  cases bs with
  | nil => cases h
  | cons d more =>
      rw [readWhole] at h
      by_cases hzero : d = 0x30
      · rw [if_pos hzero] at h
        cases h
        subst hzero
        exact ⟨⟨⟨List.cons_ne_nil _ _, List.forall_mem_singleton.2 rfl⟩, fun _ => rfl⟩, rfl⟩
      · rw [if_neg hzero] at h
        by_cases hd : isDigit d
        · rw [if_pos hd] at h
          cases h
          obtain ⟨hdigits, heq⟩ := exists_digits hd more
          exact ⟨⟨hdigits, fun h => absurd (Option.some.inj h) hzero⟩, heq⟩
        · rw [if_neg hd] at h
          cases h

/-! ## Fractions and exponents -/

theorem skipFraction_of_fraction {frac rest : List UInt8} (hfrac : Fraction frac)
    (hdigit : Halts isDigit rest) (hpoint : Halts isPoint rest) :
    skipFraction (frac ++ rest) = some rest := by
  cases hfrac with
  | none =>
      cases rest with
      | nil => rfl
      | cons b more =>
          have hb : b ≠ 0x2e := by simpa [isPoint] using hpoint b more rfl
          rw [List.nil_append, skipFraction, if_neg hb]
  | digits hds =>
      rw [List.cons_append, skipFraction, if_pos rfl, skipDigits_of_digits hds hdigit]

theorem fraction_of_skipFraction {bs rest : List UInt8} (h : skipFraction bs = some rest) :
    ∃ frac, Fraction frac ∧ bs = frac ++ rest := by
  cases bs with
  | nil =>
      cases h
      exact ⟨[], .none, rfl⟩
  | cons b more =>
      rw [skipFraction] at h
      by_cases hb : b = 0x2e
      · rw [if_pos hb] at h
        obtain ⟨ds, hds, rfl⟩ := digits_of_skipDigits h
        exact ⟨0x2e :: ds, .digits hds, by rw [hb]; rfl⟩
      · rw [if_neg hb] at h
        cases h
        exact ⟨[], .none, rfl⟩

theorem skipSign_of_sign {sign ds : List UInt8} (hsign : sign ∈ [[], [0x2b], [0x2d]])
    (hds : Digits ds) (rest : List UInt8) : skipSign (sign ++ (ds ++ rest)) = ds ++ rest := by
  obtain ⟨hne, hall⟩ := hds
  simp only [List.mem_cons, List.not_mem_nil, or_false] at hsign
  rcases hsign with rfl | rfl | rfl
  · cases ds with
    | nil => exact absurd rfl hne
    | cons d ds =>
        have hd := hall d List.mem_cons_self
        have hplus : d ≠ 0x2b := by rintro rfl; exact absurd hd (by decide)
        have hminus : d ≠ 0x2d := by rintro rfl; exact absurd hd (by decide)
        simp [skipSign, hplus, hminus]
  · rfl
  · rfl

theorem exists_sign (bs : List UInt8) :
    ∃ sign, sign ∈ ([[], [0x2b], [0x2d]] : List (List UInt8)) ∧ bs = sign ++ skipSign bs := by
  cases bs with
  | nil => exact ⟨[], by simp, rfl⟩
  | cons b more =>
      by_cases hplus : b = 0x2b
      · exact ⟨[0x2b], by simp, by simp [skipSign, hplus]⟩
      · by_cases hminus : b = 0x2d
        · exact ⟨[0x2d], by simp, by simp [skipSign, hminus]⟩
        · exact ⟨[], by simp, by simp [skipSign, hplus, hminus]⟩

theorem skipExponent_of_exponent {exp rest : List UInt8} (hexp : Exponent exp)
    (hdigit : Halts isDigit rest) (hletter : Halts isExponentLetter rest) :
    skipExponent (exp ++ rest) = some rest := by
  cases hexp with
  | none =>
      cases rest with
      | nil => rfl
      | cons b more =>
          have hb : ¬ (b = 0x65 || b = 0x45) = true := Bool.eq_false_iff.1 (hletter b more rfl)
          rw [List.nil_append, skipExponent, if_neg hb]
  | @digits e sign ds he hsign hds =>
      have he : e = 0x65 ∨ e = 0x45 := by simpa using he
      rw [List.cons_append, List.cons_append, List.append_assoc, skipExponent,
        if_pos (by simpa using he), skipSign_of_sign hsign hds,
        skipDigits_of_digits hds hdigit]

theorem exponent_of_skipExponent {bs rest : List UInt8} (h : skipExponent bs = some rest) :
    ∃ exp, Exponent exp ∧ bs = exp ++ rest := by
  cases bs with
  | nil =>
      cases h
      exact ⟨[], .none, rfl⟩
  | cons b more =>
      rw [skipExponent] at h
      by_cases hb : b = 0x65 ∨ b = 0x45
      · rw [if_pos (by simpa using hb)] at h
        obtain ⟨ds, hds, hskip⟩ := digits_of_skipDigits h
        obtain ⟨sign, hsign, heq⟩ := exists_sign more
        refine ⟨b :: sign ++ ds, .digits (by simpa using hb) hsign hds, ?_⟩
        rw [List.cons_append, List.cons_append, List.append_assoc, ← hskip, ← heq]
      · rw [if_neg (by simpa using hb)] at h
        cases h
        exact ⟨[], .none, rfl⟩

/-! ## Numbers -/

theorem Exponent.letter {e : UInt8} (he : e ∈ [0x65, 0x45]) :
    isDigit e = false ∧ isPoint e = false := by
  have he : e = 0x65 ∨ e = 0x45 := by simpa using he
  rcases he with rfl | rfl <;> decide

/-- Behind the fraction comes no digit and no point. -/
theorem halts_exponent {exp rest : List UInt8} (hexp : Exponent exp) (h : Stops rest) :
    Halts isDigit (exp ++ rest) ∧ Halts isPoint (exp ++ rest) := by
  cases hexp with
  | none => exact ⟨h.digit, h.point⟩
  | digits he _ _ =>
      exact ⟨halts_cons (Exponent.letter he).1 _, halts_cons (Exponent.letter he).2 _⟩

/-- Behind the whole digits comes no digit. -/
theorem halts_fraction {frac exp rest : List UInt8} (hfrac : Fraction frac) (hexp : Exponent exp)
    (h : Stops rest) : Halts isDigit (frac ++ (exp ++ rest)) := by
  cases hfrac with
  | none => exact (halts_exponent hexp h).1
  | digits hds => exact halts_cons (by decide) _

/-- The value of a number of this spelling. -/
def numberOf (negative : Bool) (ds tail : List UInt8) : Json :=
  if tail = [] then .integer negative (digitsValue ds)
  else .real (minus negative ++ ds ++ tail)

/-- What the reader makes of a number that ends in front of `rest`: without a fraction and an
exponent nothing was skipped. -/
theorem number_of_parts (negative : Bool) (ds frac exp rest : List UInt8) :
    (let literal := minus negative ++ (ds ++ (frac ++ (exp ++ rest)))
    if rest.length = (frac ++ (exp ++ rest)).length then
      some (.integer negative (digitsValue ds), frac ++ (exp ++ rest))
    else some (.real (literal.take (literal.length - rest.length)), rest)) =
      some (numberOf negative ds (frac ++ exp), rest) := by
  by_cases hnil : frac ++ exp = []
  · obtain ⟨rfl, rfl⟩ := List.append_eq_nil_iff.1 hnil
    exact if_pos rfl
  · have hpos := List.length_pos_iff.2 hnil
    have hsplit : minus negative ++ (ds ++ (frac ++ (exp ++ rest))) =
        minus negative ++ ds ++ (frac ++ exp) ++ rest := by simp
    have hlength : rest.length ≠ (frac ++ (exp ++ rest)).length := by
      rw [← List.append_assoc, List.length_append]
      omega
    simp only [hsplit]
    rw [if_neg hlength, numberOf, if_neg hnil, List.length_append, Nat.add_sub_cancel,
      List.take_left]

theorem readUnsigned_of_parts {negative : Bool} {ds frac exp rest : List UInt8}
    (hds : Whole ds) (hfrac : Fraction frac) (hexp : Exponent exp) (h : Stops rest) :
    readUnsigned negative (minus negative ++ (ds ++ (frac ++ (exp ++ rest))))
      (ds ++ (frac ++ (exp ++ rest))) = some (numberOf negative ds (frac ++ exp), rest) := by
  obtain ⟨hdigit, hpoint⟩ := halts_exponent hexp h
  have hwhole := readWhole_of_whole hds (halts_fraction hfrac hexp h)
  have hfraction := skipFraction_of_fraction hfrac hdigit hpoint
  have hskip := skipExponent_of_exponent hexp h.digit h.exponentLetter
  simp only [readUnsigned, hwhole, hfraction, hskip, Option.bind_eq_bind, Option.bind_some]
  exact number_of_parts negative ds frac exp rest

theorem readNumber_of_parts {negative : Bool} {ds frac exp rest : List UInt8}
    (hds : Whole ds) (hfrac : Fraction frac) (hexp : Exponent exp) (h : Stops rest) :
    readNumber (minus negative ++ ds ++ (frac ++ exp) ++ rest) =
      some (numberOf negative ds (frac ++ exp), rest) := by
  have hsplit : minus negative ++ ds ++ (frac ++ exp) ++ rest =
      minus negative ++ (ds ++ (frac ++ (exp ++ rest))) := by simp
  rw [hsplit]
  cases negative with
  | true => exact readUnsigned_of_parts hds hfrac hexp h
  | false =>
      obtain ⟨⟨hne, hall⟩, hzero⟩ := hds
      cases ds with
      | nil => exact absurd rfl hne
      | cons d ds =>
          have hd : d ≠ 0x2d := by
            rintro rfl
            exact absurd (hall 0x2d List.mem_cons_self) (by decide)
          show readNumber (d :: (ds ++ (frac ++ (exp ++ rest)))) = _
          rw [readNumber, if_neg hd]
          exact readUnsigned_of_parts ⟨⟨hne, hall⟩, hzero⟩ hfrac hexp h

theorem parts_of_readUnsigned {negative : Bool} {bs rest : List UInt8} {v : Json}
    (h : readUnsigned negative (minus negative ++ bs) bs = some (v, rest)) :
    ∃ ds frac exp, Whole ds ∧ Fraction frac ∧ Exponent exp ∧
      bs = ds ++ (frac ++ exp) ++ rest ∧ v = numberOf negative ds (frac ++ exp) := by
  simp only [readUnsigned, Option.bind_eq_bind, Option.bind_eq_some_iff] at h
  obtain ⟨⟨ds, more⟩, hwhole, more', hfraction, tail, hexponent, h⟩ := h
  obtain ⟨hds, rfl⟩ := whole_of_readWhole hwhole
  obtain ⟨frac, hfrac, rfl⟩ := fraction_of_skipFraction hfraction
  obtain ⟨exp, hexp, rfl⟩ := exponent_of_skipExponent hexponent
  cases (number_of_parts negative ds frac exp tail).symm.trans h
  exact ⟨ds, frac, exp, hds, hfrac, hexp, by simp, rfl⟩

theorem parts_of_readNumber {bs rest : List UInt8} {v : Json}
    (h : readNumber bs = some (v, rest)) :
    ∃ negative ds frac exp, Whole ds ∧ Fraction frac ∧ Exponent exp ∧
      bs = minus negative ++ ds ++ (frac ++ exp) ++ rest ∧
      v = numberOf negative ds (frac ++ exp) := by
  cases bs with
  | nil => cases h
  | cons b more =>
      rw [readNumber] at h
      by_cases hb : b = 0x2d
      · rw [if_pos hb] at h
        subst hb
        have h : readUnsigned true (minus true ++ more) more = some (v, rest) := h
        obtain ⟨ds, frac, exp, hds, hfrac, hexp, rfl, rfl⟩ := parts_of_readUnsigned h
        exact ⟨true, ds, frac, exp, hds, hfrac, hexp, rfl, rfl⟩
      · rw [if_neg hb] at h
        have h : readUnsigned false (minus false ++ b :: more) (b :: more) = some (v, rest) := h
        obtain ⟨ds, frac, exp, hds, hfrac, hexp, heq, rfl⟩ := parts_of_readUnsigned h
        exact ⟨false, ds, frac, exp, hds, hfrac, hexp, heq, rfl⟩

/-- The grammar's numbers in one form. -/
theorem spells_numberOf {negative : Bool} {ds frac exp : List UInt8} (hds : Whole ds)
    (hfrac : Fraction frac) (hexp : Exponent exp) :
    Spells (.value (numberOf negative ds (frac ++ exp)))
      (minus negative ++ ds ++ (frac ++ exp)) := by
  by_cases hnil : frac ++ exp = []
  · rw [numberOf, if_pos hnil, hnil, List.append_nil]
    exact .integer hds
  · rw [numberOf, if_neg hnil]
    exact .real hds hfrac hexp hnil

end Interchain.Json
