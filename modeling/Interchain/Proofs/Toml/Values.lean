import Interchain.Proofs.Numeral
import Interchain.Toml.Printer
import Interchain.Toml.Reader

/-!
# Printed values are read back

The strings, truth values, numbers and arrays that are printed are read as what they are, up to
what stands behind them.
-/

set_option autoImplicit false

namespace Interchain.Toml

/-! ## Strings -/

deriving instance DecidableEq for StringState

/-- Whether the reader of a string on one line is inside of it. -/
def StringState.isOpen : StringState → Bool
  | .plain => true
  | .escape => true
  | .codePoint _ _ => true
  | _ => false

/-- What the characters of a string on one line add to its text, and where they lead. -/
def runString (style : StringStyle) : StringState → List Char → Option (List Char × StringState)
  | state, [] => some ([], state)
  | state, c :: cs =>
      if state.isOpen then
        (stringStep style c state).bind fun s =>
          (runString style s.2 cs).map fun r => (s.1 ++ r.1, r.2)
      else none

theorem readStringFrom_open {style : StringStyle} {state : StringState}
    (h : state.isOpen = true) (c : Char) (cs : List Char) :
    readStringFrom style state (c :: cs) = (stringStep style c state).bind fun s =>
      (readStringFrom style s.2 cs).map fun r => (s.1 ++ r.1, r.2) := by
  have hmap : ∀ s : List Char × StringState,
      ((readStringFrom style s.2 cs).bind fun r => some (s.1 ++ r.1, r.2)) =
      (readStringFrom style s.2 cs).map fun r => (s.1 ++ r.1, r.2) := by
    intro s
    cases readStringFrom style s.2 cs <;> rfl
  cases state with
  | plain | escape | codePoint =>
      rw [readStringFrom]
      · exact congrArg _ (funext hmap)
      all_goals
        intros
        contradiction
  | foldedBlank | folded | carriage | quotes | closed => cases h

theorem readStringFrom_of_run {style : StringStyle} {state next : StringState}
    {cs out : List Char} (h : runString style state cs = some (out, next)) (rest : List Char) :
    readStringFrom style state (cs ++ rest) =
      (readStringFrom style next rest).map fun r => (out ++ r.1, r.2) := by
  induction cs generalizing state out with
  | nil =>
      cases h
      exact Option.map_id'.symm
  | cons c cs ih =>
      rw [runString] at h
      split at h
      · rename_i hopen
        simp only [Option.bind_eq_some_iff, Option.map_eq_some_iff, Prod.mk.injEq] at h
        obtain ⟨⟨step, middle⟩, hstep, ⟨more, last⟩, hrun, rfl, rfl⟩ := h
        rw [List.cons_append, readStringFrom_open hopen, hstep, Option.bind_some, ih hrun,
          Option.map_map]
        simp [Function.comp_def]
      · cases h

/-- The style of printed strings. -/
def basic : StringStyle :=
  ⟨'"', true, false⟩

theorem run_escapeChar_of_lt : ∀ n < 128, runString basic .plain (escapeChar (Char.ofNat n)) =
    some ([Char.ofNat n], .plain) := by
  decide +kernel

theorem escapeChar_of_le {c : Char} (h : 128 ≤ c.toNat) : escapeChar c = [c] := by
  have hne : ∀ d : Char, d.toNat < 128 → c ≠ d := by
    rintro d hd rfl
    omega
  have hlow : ¬ c < ' ' := by
    intro hlt
    have hnat : c.toNat < 32 := UInt32.lt_iff_toNat_lt.1 hlt
    omega
  simp [escapeChar, hlow, hne '"' (by decide), hne '\\' (by decide), hne '\x08' (by decide),
    hne '\t' (by decide), hne '\n' (by decide), hne '\x0c' (by decide), hne '\r' (by decide),
    hne '\x7f' (by decide)]

/-- A printed character is read as the character. -/
theorem run_escapeChar (c : Char) :
    runString basic .plain (escapeChar c) = some ([c], .plain) := by
  by_cases h : c.toNat < 128
  · have hrun := run_escapeChar_of_lt c.toNat h
    rw [Char.ofNat_toNat] at hrun
    exact hrun
  · have hle : 128 ≤ c.toNat := Nat.le_of_not_lt h
    have hquote : c ≠ '"' := by
      rintro rfl
      exact absurd hle (by decide)
    have hslash : c ≠ '\\' := by
      rintro rfl
      exact absurd hle (by decide)
    have htext : isTextChar c = true := by simp [isTextChar, hle]
    rw [escapeChar_of_le hle]
    simp [runString, StringState.isOpen, stringStep, plainStep, basic, hquote, hslash, htext]

theorem readStringFrom_escaped (cs rest : List Char) :
    readStringFrom basic .plain (cs.flatMap escapeChar ++ '"' :: rest) = some (cs, rest) := by
  induction cs with
  | nil =>
      rw [List.flatMap_nil, List.nil_append, readStringFrom_open rfl]
      simp [stringStep, plainStep, basic, readStringFrom]
  | cons c cs ih =>
      rw [List.flatMap_cons, List.append_assoc, readStringFrom_of_run (run_escapeChar c), ih]
      rfl

theorem escapeChar_head_of_lt : ∀ n < 128, (escapeChar (Char.ofNat n)).head? ≠ some '"' ∧
    escapeChar (Char.ofNat n) ≠ [] := by
  decide +kernel

/-- What is printed for a character does not start with a quote. -/
theorem exists_escapeChar (c : Char) : ∃ d ds, escapeChar c = d :: ds ∧ d ≠ '"' := by
  have h : (escapeChar c).head? ≠ some '"' ∧ escapeChar c ≠ [] := by
    by_cases h : c.toNat < 128
    · have hhead := escapeChar_head_of_lt c.toNat h
      rw [Char.ofNat_toNat] at hhead
      exact hhead
    · rw [escapeChar_of_le (Nat.le_of_not_lt h)]
      refine ⟨?_, List.cons_ne_nil _ _⟩
      rintro ⟨⟩
      exact absurd h (by decide)
  obtain ⟨d, ds, hd⟩ := List.exists_cons_of_ne_nil h.2
  rw [hd] at h
  exact ⟨d, ds, hd, fun hq => h.1 (by rw [hq]; rfl)⟩

/-- A printed string does not start with three quotes. -/
theorem not_triple (s : String) {c : Char} (h : c ≠ '"') (cs : List Char) :
    (List.replicate 3 '"').isPrefixOf (printString s ++ c :: cs) = false := by
  rw [printString]
  cases s.toList with
  | nil => simp [List.replicate, List.isPrefixOf, h.symm]
  | cons d ds =>
      obtain ⟨e, es, he, hne⟩ := exists_escapeChar d
      rw [List.flatMap_cons, he]
      simp [List.replicate, List.isPrefixOf, hne.symm]

/-- A printed string is read as the string. -/
theorem readQuoted_printString (s : String) {c : Char} (h : c ≠ '"') (cs : List Char) :
    readQuoted '"' true (printString s ++ c :: cs) = some (s, c :: cs) := by
  have hread : readStringFrom ⟨'"', true, false⟩ .plain ((printString s ++ c :: cs).drop 1) =
      some (s.toList, c :: cs) := by
    have hdrop : (printString s ++ c :: cs).drop 1 =
        s.toList.flatMap escapeChar ++ '"' :: c :: cs := by
      simp [printString]
    rw [hdrop]
    exact readStringFrom_escaped s.toList (c :: cs)
  rw [readQuoted]
  simp only [not_triple s h, Bool.false_eq_true, if_false, hread, Option.bind_eq_bind,
    Option.bind_some, Option.pure_def, String.ofList_toList]

theorem readValue_printString (s : String) {c : Char} (h : c ≠ '"') (cs : List Char)
    (fuel levels : Nat) :
    readValue (fuel + 1) levels (printString s ++ c :: cs) = some (.text s, c :: cs) := by
  have hread := readQuoted_printString s h cs
  rw [printString, List.cons_append, List.cons_append] at hread ⊢
  rw [readValue.eq_def]
  simp only [if_pos, hread, Option.bind_eq_bind, Option.bind_some, Option.pure_def]

/-! ## Values on a line -/

/-- Whether `cs` is read as the value wherever a line ends behind it. -/
structure Prints (v : Toml) (cs : List Char) : Prop where
  starts : ∃ c more, cs = c :: more ∧ isBlank c = false
  read : ∀ (fuel : Nat) (rest : List Char), 2 * cs.length ≤ fuel →
    readValue (fuel + 1) levelLimit (cs ++ '\n' :: rest) = some (v, '\n' :: rest)

theorem prints_string (s : String) : Prints (.text s) (printString s) where
  starts := ⟨'"', _, rfl, by decide⟩
  read fuel rest _ := readValue_printString s (by decide) rest fuel levelLimit

theorem prints_bool (b : Bool) : Prints (.bool b) (printBool b) where
  starts := by
    cases b with
    | true => exact ⟨'t', _, rfl, by decide⟩
    | false => exact ⟨'f', _, rfl, by decide⟩
  read fuel rest _ := by
    cases b with
    | true => rfl
    | false => rfl

/-! ## Numbers -/

/-- Whether the characters are digits up to the end of the line. -/
def DigitLine (rest cs : List Char) : Prop :=
  ∃ ds, cs = ds ++ '\n' :: rest ∧ ∀ d ∈ ds, d.isDigit = true

theorem DigitLine.drop {rest cs : List Char} (h : DigitLine rest cs) {k : Nat}
    (hk : ∀ d ∈ cs.take k, d.isDigit = true) : DigitLine rest (cs.drop k) := by
  obtain ⟨ds, rfl, hds⟩ := h
  by_cases hle : k ≤ ds.length
  · refine ⟨ds.drop k, List.drop_append_of_le_length hle, fun d hd => ?_⟩
    exact hds d (List.mem_of_mem_drop hd)
  · -- the end of the line is no digit
    have hmem : '\n' ∈ (ds ++ '\n' :: rest).take k := by
      obtain ⟨j, hj⟩ : ∃ j, k - ds.length = j + 1 := ⟨k - ds.length - 1, by omega⟩
      rw [List.take_append, hj, List.take_succ_cons]
      exact List.mem_append_right _ List.mem_cons_self
    exact absurd (hk _ hmem) (by decide)

/-- Behind digits on their line comes no sign. -/
theorem DigitLine.dropChar? {rest cs : List Char} (h : DigitLine rest cs) {c : Char}
    (hdigit : c.isDigit = false) (hend : c ≠ '\n') : dropChar? c cs = none := by
  obtain ⟨ds, rfl, hds⟩ := h
  cases ds with
  | nil => exact if_neg hend.symm
  | cons d ds =>
      exact if_neg (Numeral.ne_of_isDigit (hds d List.mem_cons_self) hdigit)

theorem DigitLine.readField {rest cs : List Char} (h : DigitLine rest cs) {count least most n : Nat}
    {tail : List Char} (hread : readField count least most cs = some (n, tail)) :
    DigitLine rest tail := by
  simp only [Toml.readField] at hread
  split at hread
  · rename_i hfield
    cases hread
    simp only [Bool.and_eq_true, List.all_eq_true] at hfield
    exact h.drop hfield.1.1.2
  · cases hread

theorem skipDate_digits {rest cs : List Char} (h : DigitLine rest cs) : skipDate cs = none := by
  rw [skipDate]
  cases hyear : readField 4 0 9999 cs with
  | none => rfl
  | some r =>
      obtain ⟨year, tail⟩ := r
      simp [(h.readField hyear).dropChar? (c := '-') (by decide) (by decide)]

theorem skipTime_digits {rest cs : List Char} (h : DigitLine rest cs) : skipTime cs = none := by
  rw [skipTime]
  cases hhour : readField 2 0 23 cs with
  | none => rfl
  | some r =>
      obtain ⟨hour, tail⟩ := r
      simp [(h.readField hhour).dropChar? (c := ':') (by decide) (by decide)]

theorem readDate_digits {rest cs : List Char} (h : DigitLine rest cs) : readDate cs = none := by
  simp [readDate, skipDate_digits h, skipTime_digits h]

theorem moreDigits_line {ds : List Char} (h : ∀ d ∈ ds, d.isDigit = true) (rest : List Char) :
    moreDigits Char.isDigit (ds ++ '\n' :: rest) = (ds, '\n' :: rest) := by
  induction ds with
  | nil => rfl
  | cons d ds ih =>
      have hd := h d List.mem_cons_self
      have hscore : d ≠ '_' := Numeral.ne_of_isDigit hd (by decide)
      rw [List.cons_append, moreDigits]
      · rw [if_pos hd, ih fun e he => h e (List.mem_cons_of_mem _ he)]
      · intro e more heq
        exact absurd heq hscore

theorem readSign_digit {d : Char} (h : d.isDigit = true) (cs : List Char) :
    readSign (d :: cs) = (false, d :: cs) := by
  have hminus : d ≠ '-' := Numeral.ne_of_isDigit h (by decide)
  have hplus : d ≠ '+' := Numeral.ne_of_isDigit h (by decide)
  rw [readSign]
  · intro rest heq
    exact absurd (List.cons.inj heq).1 hminus
  · intro rest heq
    exact absurd (List.cons.inj heq).1 hplus

/-- The digits of a number: a zero alone, or a run that does not start with one. -/
theorem toDigits_cases (n : Nat) : Nat.toDigits 10 n = ['0'] ∨
    ∃ d ds, Nat.toDigits 10 n = d :: ds ∧ d ≠ '0' ∧ ∀ c ∈ d :: ds, c.isDigit = true := by
  obtain ⟨d, ds, hds⟩ : ∃ d ds, Nat.toDigits 10 n = d :: ds :=
    List.exists_cons_of_ne_nil Nat.toDigits_ne_nil
  by_cases hzero : d = '0'
  · exact .inl (Numeral.toDigits_of_head? (by rw [hds, hzero]; rfl))
  · exact .inr ⟨d, ds, hds, hzero, fun c hc =>
      Numeral.isDigit_of_mem_toDigits (by rw [hds]; exact hc)⟩

/-- The digits of a number are read as its whole digits. -/
theorem readWhole_toDigits (n : Nat) (rest : List Char) :
    readWhole (Nat.toDigits 10 n ++ '\n' :: rest) =
      some (false, Nat.toDigits 10 n, '\n' :: rest) := by
  rcases toDigits_cases n with hn | ⟨d, ds, hn, hzero, hdigits⟩
  · rw [hn]
    rfl
  · have hd := hdigits d List.mem_cons_self
    have hmore := moreDigits_line (fun e he => hdigits e (List.mem_cons_of_mem _ he)) rest
    have hrun : readDigits Char.isDigit (d :: (ds ++ '\n' :: rest)) =
        some (d :: ds, '\n' :: rest) := by
      rw [readDigits, if_pos hd, hmore]
    rw [hn, List.cons_append]
    simp only [readWhole, readSign_digit hd]
    split
    · rename_i heq
      exact absurd (List.cons.inj heq).1 hzero
    · rw [hrun]
      rfl

theorem readFloat_toDigits (n : Nat) (rest : List Char) :
    readFloat (Nat.toDigits 10 n ++ '\n' :: rest) = none := by
  have hdecimal : readDecimalFloat (Nat.toDigits 10 n ++ '\n' :: rest) = none := by
    rw [readDecimalFloat, readWhole_toDigits]
    rfl
  have hspecial : readSpecialFloat (Nat.toDigits 10 n ++ '\n' :: rest) = none := by
    obtain ⟨d, ds, hds⟩ : ∃ d ds, Nat.toDigits 10 n = d :: ds :=
      List.exists_cons_of_ne_nil Nat.toDigits_ne_nil
    have hd : d.isDigit = true := Numeral.isDigit_of_mem_toDigits (n := n) (by simp [hds])
    have hi : d ≠ 'i' := Numeral.ne_of_isDigit hd (by decide)
    have hn : d ≠ 'n' := Numeral.ne_of_isDigit hd (by decide)
    rw [hds, List.cons_append, readSpecialFloat, readSign_digit hd]
    simp [dropWord?, List.isPrefixOf, hi.symm, hn.symm]
  rw [readFloat, hdecimal, hspecial]
  rfl

theorem readInteger_toDigits {n : Nat} (h : isWord n = true) (rest : List Char) :
    readInteger (Nat.toDigits 10 n ++ '\n' :: rest) = some (.integer n, '\n' :: rest) := by
  have hwhole := readWhole_toDigits n rest
  have hvalue := Numeral.value_toDigits n
  rcases toDigits_cases n with hn | ⟨d, ds, hn, hzero, -⟩
  · rw [hn] at hvalue hwhole ⊢
    rw [List.cons_append, List.nil_append] at hwhole ⊢
    simp [readInteger, hwhole, hvalue, h]
  · rw [hn] at hvalue hwhole ⊢
    rw [List.cons_append] at hwhole ⊢
    rw [readInteger, hwhole]
    · simp [hvalue, h]
    all_goals
      intro more heq
      exact absurd (List.cons.inj heq).1 hzero

theorem readValue_digit {d : Char} (h : d.isDigit = true) (fuel levels : Nat)
    (cs : List Char) : readValue (fuel + 1) levels (d :: cs) = readScalar (d :: cs) := by
  rw [readValue.eq_def]
  simp only [Numeral.ne_of_isDigit (d := '"') h (by decide),
    Numeral.ne_of_isDigit (d := '\x27') h (by decide),
    Numeral.ne_of_isDigit (d := '[') h (by decide),
    Numeral.ne_of_isDigit (d := '\x7b') h (by decide), if_false]

/-- A printed number is read as the number if it fits in a word. -/
theorem prints_nat {n : Nat} (h : isWord n = true) : Prints (.integer n) (printNat n) := by
  obtain ⟨d, ds, hds⟩ : ∃ d ds, Nat.toDigits 10 n = d :: ds :=
    List.exists_cons_of_ne_nil Nat.toDigits_ne_nil
  have hd : d.isDigit = true := Numeral.isDigit_of_mem_toDigits (n := n) (by simp [hds])
  refine ⟨⟨d, ds, hds, ?_⟩, fun fuel rest _ => ?_⟩
  · simp [isBlank, Numeral.ne_of_isDigit (d := ' ') hd (by decide),
      Numeral.ne_of_isDigit (d := '\t') hd (by decide)]
  · have hline : DigitLine rest (Nat.toDigits 10 n ++ '\n' :: rest) :=
      ⟨_, rfl, fun _ hc => Numeral.isDigit_of_mem_toDigits hc⟩
    have hscalar : readScalar (Nat.toDigits 10 n ++ '\n' :: rest) =
        some (.integer n, '\n' :: rest) := by
      rw [readScalar, readDate_digits hline, readFloat_toDigits, readInteger_toDigits h]
      rfl
    rw [printNat, hds, List.cons_append] at *
    rw [readValue_digit hd, hscalar]

/-! ## Arrays of strings -/

/-- The lines of an array, and what stands behind them, from the first string on. -/
def itemLines (s : String) (ss : List String) (rest : List Char) : List Char :=
  printString s ++ ',' :: '\n' :: (ss.flatMap printLine ++ ']' :: rest)

theorem readItems_itemLines (s : String) (ss : List String) (levels : Nat) (rest : List Char)
    {n : Nat} (h : ss.length + 2 ≤ n) :
    readItems n levels (itemLines s ss rest) = some ((s :: ss).map .text, rest) := by
  induction ss generalizing s n with
  | nil =>
      obtain ⟨fuel, rfl⟩ : ∃ k, n = k + 2 := ⟨n - 2, by simp at h; omega⟩
      rw [readItems.eq_def]
      simp only [itemLines, readValue_printString s (c := ',') (by decide)]
      rfl
  | cons t ss ih =>
      obtain ⟨fuel, rfl⟩ : ∃ k, n = k + 2 := ⟨n - 2, by omega⟩
      have hmore := ih t (n := fuel + 1) (by simp only [List.length_cons] at h; omega)
      have hfiller : skipFiller false ('\n' :: ((t :: ss).flatMap printLine ++ ']' :: rest)) =
          itemLines t ss rest := by
        simp [List.flatMap_cons, printLine, itemLines, printString, skipFiller, isBlank]
      have hcomma : ∀ cs, skipFiller false (',' :: cs) = ',' :: cs := fun _ => rfl
      -- what follows the comma starts with a quote, so it is not the closing bracket
      obtain ⟨tail, htail⟩ : ∃ tail, itemLines t ss rest = '"' :: tail := ⟨_, rfl⟩
      rw [readItems.eq_def, itemLines]
      simp only [readValue_printString s (c := ',') (by decide), hcomma, hfiller,
        Option.bind_eq_bind, Option.bind_some]
      rw [htail] at hmore ⊢
      show (readItems (fuel + 1) levels ('"' :: tail)).bind _ = _
      rw [hmore]
      rfl

theorem readValue_bracket (fuel levels : Nat) {cs more : List Char} {c : Char}
    (h : skipFiller false cs = c :: more) (hc : c ≠ ']') :
    readValue (fuel + 1) (levels + 1) ('[' :: cs) =
      (readItems fuel levels (c :: more)).map fun r => (.array r.1, r.2) := by
  rw [readValue.eq_def]
  simp only [h]
  rw [if_neg (by decide), if_neg (by decide), if_pos trivial]
  split
  · rename_i heq
    exact absurd heq (Nat.succ_ne_zero levels)
  · rename_i heq _
    exact absurd (List.cons.inj heq).1 hc
  · rename_i heq _
    cases Nat.succ.inj heq
    cases readItems fuel levels (c :: more) <;> rfl

theorem length_flatMap_printLine (ss : List String) :
    ss.length ≤ (ss.flatMap printLine).length := by
  induction ss with
  | nil => exact Nat.le_refl 0
  | cons s ss ih =>
      rw [List.flatMap_cons, List.length_append, List.length_cons]
      have hline : 1 ≤ (printLine s).length := by simp [printLine]
      omega

theorem prints_strings (ss : List String) :
    Prints (.array (ss.map .text)) (printStrings ss) := by
  match ss with
  | [] => exact ⟨⟨'[', _, rfl, by decide⟩, fun _ _ _ => rfl⟩
  | [s] =>
      refine ⟨⟨'[', _, rfl, by decide⟩, fun fuel rest hfuel => ?_⟩
      obtain ⟨fuel, rfl⟩ : ∃ n, fuel = n + 2 :=
        ⟨fuel - 2, by simp [printStrings] at hfuel; omega⟩
      have hitem : readItems (fuel + 2) 78 (printString s ++ ']' :: '\n' :: rest) =
          some ([.text s], '\n' :: rest) := by
        rw [readItems.eq_def]
        simp only [readValue_printString s (c := ']') (by decide)]
        rfl
      have hsplit : printStrings [s] ++ '\n' :: rest =
          '[' :: (printString s ++ ']' :: '\n' :: rest) := by simp [printStrings]
      rw [hsplit, levelLimit, readValue_bracket (fuel + 2) 78 (c := '"') rfl (by decide)]
      exact congrArg _ hitem
  | s :: t :: ss =>
      refine ⟨⟨'[', _, rfl, by decide⟩, fun fuel rest hfuel => ?_⟩
      have hitems := readItems_itemLines s (t :: ss) 78 ('\n' :: rest) (n := fuel) <| by
        have hlength := length_flatMap_printLine (s :: t :: ss)
        simp only [printStrings, List.length_append, List.length_cons] at hfuel hlength ⊢
        omega
      have hsplit : printStrings (s :: t :: ss) ++ '\n' :: rest = '[' :: '\n' :: ("    ".toList ++
          itemLines s (t :: ss) ('\n' :: rest)) := by
        simp [printStrings, itemLines, printLine, List.flatMap_cons]
      rw [hsplit, levelLimit, readValue_bracket fuel 78 (c := '"') rfl (by decide)]
      exact congrArg _ hitems

end Interchain.Toml
