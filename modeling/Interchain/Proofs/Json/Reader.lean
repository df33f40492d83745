import Interchain.Proofs.Json.Numbers
import Interchain.Proofs.Json.Strings

/-!
# The reader and the grammar

The reader accepts the texts of the grammar and nothing else (`read?_eq_some_iff`). In one
direction the induction is on the text as the grammar makes it, and says of every part what is
read wherever it stands; in the other one it is on the fuel of the reader.
-/

set_option autoImplicit false

namespace Interchain.Json

/-! ## Blanks -/

theorem skipBlanks_append {w : List UInt8} (hw : Blanks w) (bs : List UInt8) :
    skipBlanks (w ++ bs) = skipBlanks bs :=
  List.dropWhile_append_of_pos hw

theorem skipBlanks_of_not_blank {b : UInt8} (hb : isBlank b = false) (bs : List UInt8) :
    skipBlanks (b :: bs) = b :: bs :=
  List.dropWhile_cons_of_neg (by simp [hb])

theorem skipBlanks_append_cons {w : List UInt8} (hw : Blanks w) {b : UInt8}
    (hb : isBlank b = false) (bs : List UInt8) : skipBlanks (w ++ b :: bs) = b :: bs := by
  rw [skipBlanks_append hw, skipBlanks_of_not_blank hb]

theorem not_blank_of_skipBlanks {bs more : List UInt8} {b : UInt8}
    (h : skipBlanks bs = b :: more) : isBlank b = false := by
  have hhead := List.head?_dropWhile_not isBlank bs
  rw [skipBlanks] at h
  rwa [h] at hhead

theorem exists_blanks (bs : List UInt8) : ∃ w, Blanks w ∧ bs = w ++ skipBlanks bs :=
  ⟨bs.takeWhile isBlank, List.all_eq_true.1 List.all_takeWhile,
    List.takeWhile_append_dropWhile.symm⟩

theorem skipBlanks_skipBlanks (bs : List UInt8) : skipBlanks (skipBlanks bs) = skipBlanks bs := by
  obtain ⟨w, hw, h⟩ := exists_blanks bs
  calc skipBlanks (skipBlanks bs) = skipBlanks (w ++ skipBlanks bs) :=
        (skipBlanks_append hw _).symm
    _ = skipBlanks bs := by rw [← h]

theorem readValue_skipBlanks (fuel : Nat) (bs : List UInt8) :
    readValue fuel (skipBlanks bs) = readValue fuel bs := by
  cases fuel with
  | zero => rw [readValue.eq_def, readValue.eq_def]
  | succ fuel => rw [readValue.eq_def, readValue.eq_def]; simp only [skipBlanks_skipBlanks]

theorem readValue_append_blanks (fuel : Nat) {w : List UInt8} (hw : Blanks w)
    (bs : List UInt8) : readValue fuel (w ++ bs) = readValue fuel bs := by
  rw [← readValue_skipBlanks, skipBlanks_append hw, readValue_skipBlanks]

theorem Blanks.stops {w rest : List UInt8} (hw : Blanks w) (h : Stops rest) :
    Stops (w ++ rest) := by
  cases w with
  | nil => exact h
  | cons b w =>
      have hb : isBlank b = true := hw b List.mem_cons_self
      simp only [isBlank, Bool.or_eq_true, decide_eq_true_eq] at hb
      refine halts_cons ?_ _
      rcases hb with ((rfl | rfl) | rfl) | rfl <;> decide

/-! ## Items and members -/

/-- What is read behind one of the items that `close` ends: nothing more, or `more` behind a
comma. -/
def behind {β : Type} (close : UInt8) (more : List UInt8 → Option (List β × List UInt8)) (x : β)
    (rest : List UInt8) : Option (List β × List UInt8) :=
  match skipBlanks rest with
  | [] => none
  | b :: rest =>
      if b = close then some ([x], rest)
      else if b = 0x2c then (more rest).map fun r => (x :: r.1, r.2)
      else none

section Behind

variable {β : Type} {close : UInt8} {more : List UInt8 → Option (List β × List UInt8)} {x : β}

theorem behind_append_blanks {w : List UInt8} (hw : Blanks w) (rest : List UInt8) :
    behind close more x (w ++ rest) = behind close more x rest := by
  rw [behind, behind, skipBlanks_append hw]

theorem behind_close (h : isBlank close = false) (rest : List UInt8) :
    behind close more x (close :: rest) = some ([x], rest) := by
  rw [behind, skipBlanks_of_not_blank h]
  exact if_pos rfl

theorem behind_comma (h : close ≠ 0x2c) (rest : List UInt8) :
    behind close more x (0x2c :: rest) = (more rest).map fun r => (x :: r.1, r.2) := by
  rw [behind, skipBlanks_of_not_blank (by decide)]
  exact (if_neg h.symm).trans (if_pos rfl)

/-- Behind an item comes what closes, or a comma with the items that follow. -/
theorem of_behind {xs : List β} {bs rest : List UInt8}
    (h : behind close more x bs = some (xs, rest)) : ∃ w, Blanks w ∧
      ((bs = w ++ close :: rest ∧ xs = [x]) ∨
        ∃ ys tail, bs = w ++ 0x2c :: tail ∧ more tail = some (ys, rest) ∧ xs = x :: ys) := by
  obtain ⟨w, hw, hbs⟩ := exists_blanks bs
  refine ⟨w, hw, ?_⟩
  rw [behind] at h
  rw [hbs]
  generalize skipBlanks bs = cs at h ⊢
  cases cs with
  | nil => cases h
  | cons b cs =>
      simp only at h
      by_cases hclose : b = close
      · rw [if_pos hclose] at h
        cases h
        exact .inl ⟨by rw [hclose], rfl⟩
      rw [if_neg hclose] at h
      by_cases hcomma : b = 0x2c
      · rw [if_pos hcomma, Option.map_eq_some_iff] at h
        obtain ⟨⟨ys, _⟩, hread, heq⟩ := h
        cases heq
        exact .inr ⟨ys, cs, by rw [hcomma], hread, rfl⟩
      rw [if_neg hcomma] at h
      cases h

end Behind

theorem readItems_succ (fuel : Nat) (bs : List UInt8) :
    readItems (fuel + 1) bs =
      (readValue fuel bs).bind fun r => behind 0x5d (readItems fuel) r.1 r.2 := by
  rw [readItems.eq_def]
  simp only [Option.bind_eq_bind]
  refine congrArg _ (funext fun r => ?_)
  rw [behind]
  cases skipBlanks r.2 with
  | nil => rfl
  | cons b cs =>
      by_cases hclose : b = 0x5d
      · subst hclose
        rfl
      · by_cases hcomma : b = 0x2c
        · subst hcomma
          cases h : readItems fuel cs <;> simp [h]
        · simp [hclose, hcomma]

theorem readItems_skipBlanks (fuel : Nat) (bs : List UInt8) :
    readItems fuel (skipBlanks bs) = readItems fuel bs := by
  cases fuel with
  | zero => rw [readItems.eq_def, readItems.eq_def]
  | succ fuel => rw [readItems_succ, readItems_succ, readValue_skipBlanks]

theorem readMembers_skipBlanks (fuel : Nat) (bs : List UInt8) :
    readMembers fuel (skipBlanks bs) = readMembers fuel bs := by
  cases fuel with
  | zero => rw [readMembers.eq_def, readMembers.eq_def]
  | succ fuel => rw [readMembers.eq_def, readMembers.eq_def]; simp only [skipBlanks_skipBlanks]

theorem readMembers_succ {key w lit w' : List UInt8} (hw : Blanks w)
    (hlit : SpellsContent key lit) (hw' : Blanks w') (fuel : Nat) (bs : List UInt8) :
    readMembers (fuel + 1) (w ++ quote :: (lit ++ quote :: (w' ++ 0x3a :: bs))) =
      (readValue fuel bs).bind fun r => behind 0x7d (readMembers fuel) (key, r.1) r.2 := by
  have hquote : skipBlanks (w ++ quote :: (lit ++ quote :: (w' ++ 0x3a :: bs))) =
      0x22 :: (lit ++ quote :: (w' ++ 0x3a :: bs)) :=
    skipBlanks_append_cons hw (by decide) _
  have hkey : readString (lit ++ quote :: (w' ++ 0x3a :: bs)) = some (key, w' ++ 0x3a :: bs) :=
    readString_eq_some_iff.2 ⟨lit, rfl, hlit⟩
  have hcolon : skipBlanks (w' ++ 0x3a :: bs) = 0x3a :: bs :=
    skipBlanks_append_cons hw' (by decide) bs
  rw [readMembers.eq_def]
  simp only [hquote, hkey, hcolon, Option.bind_eq_bind, Option.bind_some]
  refine congrArg _ (funext fun r => ?_)
  rw [behind]
  cases skipBlanks r.2 with
  | nil => rfl
  | cons b cs =>
      by_cases hclose : b = 0x7d
      · subst hclose
        rfl
      · by_cases hcomma : b = 0x2c
        · subst hcomma
          cases h : readMembers fuel cs <;> simp [h]
        · simp [hclose, hcomma]

/-! ## Values by their first byte -/

theorem bytes_null : Text.bytes "null" = [0x6e, 0x75, 0x6c, 0x6c] := by decide

theorem bytes_true : Text.bytes "true" = [0x74, 0x72, 0x75, 0x65] := by decide

theorem bytes_false : Text.bytes "false" = [0x66, 0x61, 0x6c, 0x73, 0x65] := by decide

/-- The bytes that a value can start with. -/
def isOpening (b : UInt8) : Bool :=
  isDigit b || [0x2d, quote, 0x5b, 0x7b, 0x6e, 0x74, 0x66].contains b

theorem isOpening_of_lt : ∀ k < 256, isOpening (UInt8.ofNat k) = true →
    isBlank (UInt8.ofNat k) = false ∧ UInt8.ofNat k ≠ 0x5d ∧ UInt8.ofNat k ≠ 0x7d := by
  decide +kernel

theorem not_blank_of_isOpening {b : UInt8} (h : isOpening b = true) :
    isBlank b = false ∧ b ≠ 0x5d ∧ b ≠ 0x7d := by
  have hb := isOpening_of_lt b.toNat b.toNat_lt
  rw [UInt8.ofNat_toNat] at hb
  exact hb h

theorem isOpening_of_digit {b : UInt8} (h : isDigit b = true) : isOpening b = true := by
  rw [isOpening, h, Bool.true_or]

/-- A number starts with its sign or a digit. -/
theorem exists_first_of_whole (negative : Bool) {ds : List UInt8} (hds : Whole ds) :
    ∃ b more, minus negative ++ ds = b :: more ∧ (b = 0x2d ∨ isDigit b = true) := by
  obtain ⟨⟨hne, hall⟩, -⟩ := hds
  cases negative with
  | true => exact ⟨0x2d, ds, rfl, .inl rfl⟩
  | false =>
      cases ds with
      | nil => exact absurd rfl hne
      | cons d ds => exact ⟨d, ds, rfl, .inr (hall d List.mem_cons_self)⟩

theorem isOpening_of_first {b : UInt8} (h : b = 0x2d ∨ isDigit b = true) :
    isOpening b = true := by
  rcases h with rfl | h
  · decide
  · exact isOpening_of_digit h

theorem Spells.exists_first {v : Json} {bs : List UInt8} (h : Spells (.value v) bs) :
    ∃ b more, bs = b :: more ∧ isOpening b = true := by
  cases h with
  | null => exact ⟨0x6e, _, bytes_null, by decide⟩
  | bool b =>
      cases b with
      | true => exact ⟨0x74, _, bytes_true, by decide⟩
      | false => exact ⟨0x66, _, bytes_false, by decide⟩
  | @integer negative ds hds =>
      obtain ⟨b, more, heq, hb⟩ := exists_first_of_whole negative hds
      exact ⟨b, more, heq, isOpening_of_first hb⟩
  | @real negative ds frac exp hds _ _ _ =>
      obtain ⟨b, more, heq, hb⟩ := exists_first_of_whole negative hds
      exact ⟨b, more ++ (frac ++ exp), by rw [heq, List.cons_append], isOpening_of_first hb⟩
  | string => exact ⟨quote, _, rfl, by decide⟩
  | emptyArray => exact ⟨0x5b, _, rfl, by decide⟩
  | array => exact ⟨0x5b, _, rfl, by decide⟩
  | emptyObject => exact ⟨0x7b, _, rfl, by decide⟩
  | object => exact ⟨0x7b, _, rfl, by decide⟩

/-- A value that is no literal, array or object is read as a word or a number. -/
theorem readValue_scalar {b : UInt8} (hb : isBlank b = false) (hquote : b ≠ quote)
    (harray : b ≠ 0x5b) (hobject : b ≠ 0x7b) (fuel : Nat) (more : List UInt8) :
    readValue (fuel + 1) (b :: more) = readScalar (b :: more) := by
  rw [readValue.eq_def]
  simp only [skipBlanks_of_not_blank hb]
  rw [if_neg hquote, if_neg harray, if_neg hobject]

theorem number_first_of_lt : ∀ k < 256, UInt8.ofNat k = 0x2d ∨ isDigit (UInt8.ofNat k) = true →
    isBlank (UInt8.ofNat k) = false ∧
      UInt8.ofNat k ∉ [quote, 0x5b, 0x7b, 0x6e, 0x74, 0x66] := by
  decide +kernel

theorem number_first {b : UInt8} (h : b = 0x2d ∨ isDigit b = true) :
    isBlank b = false ∧ b ∉ [quote, 0x5b, 0x7b, 0x6e, 0x74, 0x66] := by
  have hb := number_first_of_lt b.toNat b.toNat_lt
  rw [UInt8.ofNat_toNat] at hb
  exact hb h

theorem dropWord?_of_ne {word : String} {b c : UInt8} {w : List UInt8}
    (hw : Text.bytes word = c :: w) (hb : b ≠ c) (more : List UInt8) :
    dropWord? word (b :: more) = none := by
  simp [dropWord?, hw, List.isPrefixOf, hb.symm]

theorem readScalar_number {b : UInt8} (h : b = 0x2d ∨ isDigit b = true) (more : List UInt8) :
    readScalar (b :: more) = readNumber (b :: more) := by
  have hb := (number_first h).2
  simp only [List.mem_cons, List.not_mem_nil, or_false, not_or] at hb
  obtain ⟨-, -, -, hn, ht, hf⟩ := hb
  rw [readScalar, dropWord?_of_ne bytes_null hn, dropWord?_of_ne bytes_true ht,
    dropWord?_of_ne bytes_false hf]

theorem readValue_number {b : UInt8} (h : b = 0x2d ∨ isDigit b = true) (fuel : Nat)
    (more : List UInt8) : readValue (fuel + 1) (b :: more) = readNumber (b :: more) := by
  obtain ⟨hblank, hb⟩ := number_first h
  simp only [List.mem_cons, List.not_mem_nil, or_false, not_or] at hb
  obtain ⟨hquote, harray, hobject, -⟩ := hb
  rw [readValue_scalar hblank hquote harray hobject, readScalar_number h]

theorem readValue_emptyArray (fuel : Nat) {bs rest : List UInt8}
    (h : skipBlanks bs = 0x5d :: rest) :
    readValue (fuel + 1) (0x5b :: bs) = some (.array [], rest) := by
  have hopen : skipBlanks (0x5b :: bs) = 0x5b :: bs := rfl
  rw [readValue.eq_def]
  simp only [hopen, h]
  rfl

theorem readValue_array (fuel : Nat) {bs : List UInt8}
    (h : ∀ more, skipBlanks bs ≠ 0x5d :: more) :
    readValue (fuel + 1) (0x5b :: bs) = (readItems fuel bs).map fun r => (.array r.1, r.2) := by
  have hopen : skipBlanks (0x5b :: bs) = 0x5b :: bs := rfl
  rw [readValue.eq_def, ← readItems_skipBlanks]
  simp only [hopen]
  rw [if_neg (by decide), if_pos trivial]
  cases readItems fuel (skipBlanks bs) <;> rfl

theorem readValue_emptyObject (fuel : Nat) {bs rest : List UInt8}
    (h : skipBlanks bs = 0x7d :: rest) :
    readValue (fuel + 1) (0x7b :: bs) = some (.object [], rest) := by
  have hopen : skipBlanks (0x7b :: bs) = 0x7b :: bs := rfl
  rw [readValue.eq_def]
  simp only [hopen, h]
  rfl

theorem readValue_object (fuel : Nat) {bs : List UInt8}
    (h : ∀ more, skipBlanks bs ≠ 0x7d :: more) :
    readValue (fuel + 1) (0x7b :: bs) = (readMembers fuel bs).map fun r => (.object r.1, r.2) := by
  have hopen : skipBlanks (0x7b :: bs) = 0x7b :: bs := rfl
  rw [readValue.eq_def, ← readMembers_skipBlanks]
  simp only [hopen]
  rw [if_neg (by decide), if_neg (by decide), if_pos trivial]
  cases readMembers fuel (skipBlanks bs) <;> rfl

theorem readValue_string (fuel : Nat) {content lit : List UInt8}
    (h : SpellsContent content lit) (rest : List UInt8) :
    readValue (fuel + 1) (quote :: (lit ++ quote :: rest)) = some (.string content, rest) := by
  have hopen : skipBlanks (quote :: (lit ++ quote :: rest)) = quote :: (lit ++ quote :: rest) :=
    rfl
  rw [readValue.eq_def]
  simp only [hopen, readString_eq_some_iff.2 ⟨lit, rfl, h⟩]
  rfl

/-! ## Every text is read -/

/-- What the reader makes of a text of a part, whatever stands behind it. -/
def Part.Reads : Part → List UInt8 → Prop
  | .value v, bs => ∀ fuel rest, 2 * bs.length ≤ fuel + 1 → Stops rest →
      readValue (fuel + 1) (bs ++ rest) = some (v, rest)
  | .element v, bs => ∀ fuel rest, 2 * bs.length ≤ fuel → Stops rest →
      ∃ w, Blanks w ∧ readValue fuel (bs ++ rest) = some (v, w ++ rest)
  | .elements vs, bs => ∀ fuel rest, 2 * bs.length < fuel →
      readItems fuel (bs ++ 0x5d :: rest) = some (vs, rest)
  | .member m, bs => ∀ fuel rest, 2 * bs.length ≤ fuel → Stops rest →
      readMembers (fuel + 1) (bs ++ rest) = behind 0x7d (readMembers fuel) m rest
  | .members ms, bs => ∀ fuel rest, 2 * bs.length < fuel →
      readMembers fuel (bs ++ 0x7d :: rest) = some (ms, rest)

theorem stops_comma (rest : List UInt8) : Stops (0x2c :: rest) :=
  halts_cons (by decide) rest

theorem stops_bracket (rest : List UInt8) : Stops (0x5d :: rest) :=
  halts_cons (by decide) rest

theorem stops_brace (rest : List UInt8) : Stops (0x7d :: rest) :=
  halts_cons (by decide) rest

/-- The text of elements does not start with a closing bracket. -/
theorem Spells.elements_opening {vs : List Json} {bs : List UInt8} (h : Spells (.elements vs) bs)
    (rest more : List UInt8) : skipBlanks (bs ++ rest) ≠ 0x5d :: more := by
  obtain ⟨v, text, tail, hv, rfl⟩ :
      ∃ v text tail, Spells (.element v) text ∧ bs = text ++ tail := by
    cases h with
    | lastElement hv => exact ⟨_, _, [], hv, (List.append_nil _).symm⟩
    | nextElement hv _ => exact ⟨_, _, _, hv, rfl⟩
  cases hv with
  | @element v w bs w' hw hv hw' =>
      obtain ⟨b, text, rfl, hb⟩ := hv.exists_first
      obtain ⟨hblank, hne, -⟩ := not_blank_of_isOpening hb
      have hshape : w ++ b :: text ++ w' ++ tail ++ rest =
          w ++ b :: (text ++ (w' ++ (tail ++ rest))) := by simp
      rw [hshape, skipBlanks_append_cons hw hblank]
      exact fun heq => hne (List.cons.inj heq).1

/-- The text of members does not start with a closing brace. -/
theorem Spells.members_opening {ms : List (List UInt8 × Json)} {bs : List UInt8}
    (h : Spells (.members ms) bs) (rest more : List UInt8) :
    skipBlanks (bs ++ rest) ≠ 0x7d :: more := by
  obtain ⟨m, text, tail, hm, rfl⟩ : ∃ m text tail, Spells (.member m) text ∧ bs = text ++ tail := by
    cases h with
    | lastMember hm => exact ⟨_, _, [], hm, (List.append_nil _).symm⟩
    | nextMember hm _ => exact ⟨_, _, _, hm, rfl⟩
  cases hm with
  | @member key v w lit w' bs hw _ _ _ =>
      have hshape : w ++ quote :: lit ++ quote :: w' ++ 0x3a :: bs ++ tail ++ rest =
          w ++ quote :: (lit ++ quote :: (w' ++ 0x3a :: (bs ++ (tail ++ rest)))) := by simp
      rw [hshape, skipBlanks_append_cons hw (by decide)]
      exact fun heq => absurd (List.cons.inj heq).1 (by decide)

theorem readValue_numberOf {negative : Bool} {ds frac exp : List UInt8} (hds : Whole ds)
    (hfrac : Fraction frac) (hexp : Exponent exp) (fuel : Nat) {rest : List UInt8}
    (h : Stops rest) :
    readValue (fuel + 1) (minus negative ++ ds ++ (frac ++ exp) ++ rest) =
      some (numberOf negative ds (frac ++ exp), rest) := by
  obtain ⟨b, more, heq, hb⟩ := exists_first_of_whole negative hds
  have hread : readNumber (minus negative ++ ds ++ (frac ++ exp) ++ rest) =
      some (numberOf negative ds (frac ++ exp), rest) := readNumber_of_parts hds hfrac hexp h
  rw [heq, List.cons_append, List.cons_append] at hread ⊢
  rw [readValue_number hb, hread]

theorem enclosed_append (a z : UInt8) (bs rest : List UInt8) :
    a :: bs ++ [z] ++ rest = a :: (bs ++ z :: rest) := by
  simp

/-- **Every part is read from every text of it.** -/
theorem Spells.reads {part : Part} {bs : List UInt8} (h : Spells part bs) : part.Reads bs := by
  -- on how the grammar makes the text; a byte is worth two steps of fuel, one to read it and one
  -- to pass from a list to its first value
  induction h with
  | null =>
      intro fuel rest _ _
      exact readValue_scalar (b := 0x6e) (by decide) (by decide) (by decide) (by decide) fuel _
  | bool b =>
      intro fuel rest _ _
      cases b with
      | true =>
          exact readValue_scalar (b := 0x74) (by decide) (by decide) (by decide) (by decide) fuel _
      | false =>
          exact readValue_scalar (b := 0x66) (by decide) (by decide) (by decide) (by decide) fuel _
  | @integer negative ds hds =>
      intro fuel rest _ hrest
      have hread : readValue (fuel + 1) (minus negative ++ ds ++ [] ++ rest) =
          some (numberOf negative ds [], rest) := readValue_numberOf hds .none .none fuel hrest
      rwa [List.append_nil] at hread
  | real hds hfrac hexp hne =>
      intro fuel rest _ hrest
      rw [readValue_numberOf hds hfrac hexp fuel hrest, numberOf, if_neg hne]
  | string hlit =>
      intro fuel rest _ _
      rw [enclosed_append]
      exact readValue_string fuel hlit rest
  | emptyArray hw =>
      intro fuel rest _ _
      rw [enclosed_append]
      exact readValue_emptyArray fuel (skipBlanks_append_cons hw (by decide) rest)
  | array h ih =>
      intro fuel rest hfuel _
      simp only [List.length_cons, List.length_append, List.length_nil] at hfuel
      rw [enclosed_append, readValue_array fuel (h.elements_opening _), ih fuel rest (by omega),
        Option.map_some]
  | emptyObject hw =>
      intro fuel rest _ _
      rw [enclosed_append]
      exact readValue_emptyObject fuel (skipBlanks_append_cons hw (by decide) rest)
  | object h ih =>
      intro fuel rest hfuel _
      simp only [List.length_cons, List.length_append, List.length_nil] at hfuel
      rw [enclosed_append, readValue_object fuel (h.members_opening _), ih fuel rest (by omega),
        Option.map_some]
  | @element v w bs w' hw hv hw' ih =>
      intro fuel rest hfuel hrest
      -- a value is not empty, so there is fuel for a step
      obtain ⟨b, more, rfl, -⟩ := hv.exists_first
      simp only [List.length_append, List.length_cons] at hfuel
      obtain ⟨fuel, rfl⟩ : ∃ n, fuel = n + 1 := ⟨fuel - 1, by omega⟩
      refine ⟨w', hw', ?_⟩
      rw [List.append_assoc, List.append_assoc, readValue_append_blanks _ hw]
      exact ih fuel (w' ++ rest) (by rw [List.length_cons]; omega) (hw'.stops hrest)
  | lastElement hv ih =>
      intro fuel rest hfuel
      obtain ⟨fuel, rfl⟩ : ∃ n, fuel = n + 1 := ⟨fuel - 1, by omega⟩
      obtain ⟨w, hw, hread⟩ := ih fuel (0x5d :: rest) (by omega) (stops_bracket rest)
      rw [readItems_succ, hread, Option.bind_some, behind_append_blanks hw,
        behind_close (by decide)]
  | nextElement hv hvs ih ih' =>
      intro fuel rest hfuel
      simp only [List.length_append, List.length_cons] at hfuel
      obtain ⟨fuel, rfl⟩ : ∃ n, fuel = n + 1 := ⟨fuel - 1, by omega⟩
      rw [List.append_assoc, List.cons_append]
      obtain ⟨w, hw, hread⟩ := ih fuel (0x2c :: _) (by omega) (stops_comma _)
      rw [readItems_succ, hread, Option.bind_some, behind_append_blanks hw,
        behind_comma (by decide), ih' fuel rest (by omega), Option.map_some]
  | @member key v w lit w' bs hw hlit hw' hv ih =>
      intro fuel rest hfuel hrest
      simp only [List.length_append, List.length_cons] at hfuel
      obtain ⟨w₂, hw₂, hread⟩ := ih fuel rest (by omega) hrest
      have hshape : w ++ quote :: lit ++ quote :: w' ++ 0x3a :: bs ++ rest =
          w ++ quote :: (lit ++ quote :: (w' ++ 0x3a :: (bs ++ rest))) := by simp
      rw [hshape, readMembers_succ hw hlit hw', hread]
      exact behind_append_blanks hw₂ rest
  | lastMember hm ih =>
      intro fuel rest hfuel
      obtain ⟨fuel, rfl⟩ : ∃ n, fuel = n + 1 := ⟨fuel - 1, by omega⟩
      rw [ih fuel (0x7d :: rest) (by omega) (stops_brace rest), behind_close (by decide)]
  | nextMember hm hms ih ih' =>
      intro fuel rest hfuel
      simp only [List.length_append, List.length_cons] at hfuel
      obtain ⟨fuel, rfl⟩ : ∃ n, fuel = n + 1 := ⟨fuel - 1, by omega⟩
      rw [List.append_assoc, List.cons_append, ih fuel (0x2c :: _) (by omega) (stops_comma _),
        behind_comma (by decide), ih' fuel rest (by omega), Option.map_some]

/-! ## Nothing else is read -/

theorem exists_word_of_dropWord? {word : String} {bs rest : List UInt8}
    (h : dropWord? word bs = some rest) : bs = Text.bytes word ++ rest := by
  simp only [dropWord?] at h
  split at h
  · rename_i hprefix
    obtain ⟨more, rfl⟩ := List.isPrefixOf_iff_prefix.1 hprefix
    rw [List.drop_left] at h
    cases h
    rfl
  · cases h

theorem spells_of_readScalar {bs rest : List UInt8} {v : Json}
    (h : readScalar bs = some (v, rest)) : ∃ text, Spells (.value v) text ∧ bs = text ++ rest := by
  rw [readScalar] at h
  split at h
  · rename_i hword
    cases h
    exact ⟨_, .null, exists_word_of_dropWord? hword⟩
  · rename_i hword _
    cases h
    exact ⟨_, .bool true, exists_word_of_dropWord? hword⟩
  · rename_i hword _ _
    cases h
    exact ⟨_, .bool false, exists_word_of_dropWord? hword⟩
  · obtain ⟨negative, ds, frac, exp, hds, hfrac, hexp, rfl, rfl⟩ := parts_of_readNumber h
    exact ⟨_, spells_numberOf hds hfrac hexp, rfl⟩

/-- What a reader with this fuel reads is a text of the grammar. -/
structure Faithful (fuel : Nat) : Prop where
  value : ∀ {bs rest v}, readValue fuel bs = some (v, rest) →
    ∃ w text, Blanks w ∧ Spells (.value v) text ∧ bs = w ++ (text ++ rest)
  items : ∀ {bs rest vs}, readItems fuel bs = some (vs, rest) →
    ∃ text, Spells (.elements vs) text ∧ bs = text ++ 0x5d :: rest
  members : ∀ {bs rest ms}, readMembers fuel bs = some (ms, rest) →
    ∃ text, Spells (.members ms) text ∧ bs = text ++ 0x7d :: rest

theorem faithful_zero : Faithful 0 where
  value h := by rw [readValue.eq_def] at h; cases h
  items h := by rw [readItems.eq_def] at h; cases h
  members h := by rw [readMembers.eq_def] at h; cases h

theorem spells_of_readValue_quote {fuel : Nat} {bs rest : List UInt8} {v : Json}
    (h : readValue (fuel + 1) (quote :: bs) = some (v, rest)) :
    ∃ text, Spells (.value v) text ∧ quote :: bs = text ++ rest := by
  have hopen : skipBlanks (quote :: bs) = quote :: bs := rfl
  rw [readValue.eq_def] at h
  simp only [hopen, if_true, Option.bind_eq_bind, Option.bind_eq_some_iff, Option.pure_def,
    Option.some.injEq, Prod.mk.injEq] at h
  obtain ⟨⟨content, _⟩, hread, rfl, rfl⟩ := h
  obtain ⟨lit, rfl, hlit⟩ := readString_eq_some_iff.1 hread
  exact ⟨_, .string hlit, by rw [enclosed_append]⟩

theorem Faithful.array {fuel : Nat} (hf : Faithful fuel) {bs rest : List UInt8} {v : Json}
    (h : readValue (fuel + 1) (0x5b :: bs) = some (v, rest)) :
    ∃ text, Spells (.value v) text ∧ 0x5b :: bs = text ++ rest := by
  by_cases hempty : ∃ more, skipBlanks bs = 0x5d :: more
  · obtain ⟨more, hmore⟩ := hempty
    obtain ⟨w, hw, hbs⟩ := exists_blanks bs
    rw [readValue_emptyArray fuel hmore] at h
    cases h
    exact ⟨_, .emptyArray hw, by rw [enclosed_append, ← hmore, ← hbs]⟩
  · rw [readValue_array fuel fun more hmore => hempty ⟨more, hmore⟩, Option.map_eq_some_iff] at h
    obtain ⟨⟨vs, _⟩, hread, heq⟩ := h
    cases heq
    obtain ⟨text, htext, rfl⟩ := hf.items hread
    exact ⟨_, .array htext, by rw [enclosed_append]⟩

theorem Faithful.object {fuel : Nat} (hf : Faithful fuel) {bs rest : List UInt8} {v : Json}
    (h : readValue (fuel + 1) (0x7b :: bs) = some (v, rest)) :
    ∃ text, Spells (.value v) text ∧ 0x7b :: bs = text ++ rest := by
  by_cases hempty : ∃ more, skipBlanks bs = 0x7d :: more
  · obtain ⟨more, hmore⟩ := hempty
    obtain ⟨w, hw, hbs⟩ := exists_blanks bs
    rw [readValue_emptyObject fuel hmore] at h
    cases h
    exact ⟨_, .emptyObject hw, by rw [enclosed_append, ← hmore, ← hbs]⟩
  · rw [readValue_object fuel fun more hmore => hempty ⟨more, hmore⟩, Option.map_eq_some_iff] at h
    obtain ⟨⟨ms, _⟩, hread, heq⟩ := h
    cases heq
    obtain ⟨text, htext, rfl⟩ := hf.members hread
    exact ⟨_, .object htext, by rw [enclosed_append]⟩

/-- The first byte behind the blanks says what sort of value follows. -/
theorem Faithful.value_succ {fuel : Nat} (hf : Faithful fuel) {bs rest : List UInt8} {v : Json}
    (h : readValue (fuel + 1) bs = some (v, rest)) :
    ∃ w text, Blanks w ∧ Spells (.value v) text ∧ bs = w ++ (text ++ rest) := by
  -- the reader skips the blanks first, so what they leave is all that counts
  obtain ⟨w, hw, hbs⟩ := exists_blanks bs
  suffices hvalue : ∃ text, Spells (.value v) text ∧ skipBlanks bs = text ++ rest by
    obtain ⟨text, htext, heq⟩ := hvalue
    exact ⟨w, text, hw, htext, by rw [← heq, ← hbs]⟩
  rw [← readValue_skipBlanks] at h
  cases hcs : skipBlanks bs with
  | nil =>
      rw [hcs, readValue.eq_def] at h
      cases h
  | cons b more =>
      rw [hcs] at h
      by_cases hquote : b = quote
      · subst hquote
        exact spells_of_readValue_quote h
      by_cases harray : b = 0x5b
      · subst harray
        exact hf.array h
      by_cases hobject : b = 0x7b
      · subst hobject
        exact hf.object h
      rw [readValue_scalar (not_blank_of_skipBlanks hcs) hquote harray hobject] at h
      exact spells_of_readScalar h

theorem Faithful.items_succ {fuel : Nat} (hf : Faithful fuel) {bs rest : List UInt8}
    {vs : List Json} (h : readItems (fuel + 1) bs = some (vs, rest)) :
    ∃ text, Spells (.elements vs) text ∧ bs = text ++ 0x5d :: rest := by
  rw [readItems_succ, Option.bind_eq_some_iff] at h
  obtain ⟨⟨v, tail⟩, hread, h⟩ := h
  obtain ⟨w, text, hw, htext, rfl⟩ := hf.value hread
  obtain ⟨w', hw', h⟩ := of_behind h
  have helement : Spells (.element v) (w ++ text ++ w') := .element hw htext hw'
  rcases h with ⟨heq, rfl⟩ | ⟨more, tail', heq, hmore, rfl⟩
  · have heq : tail = w' ++ 0x5d :: rest := heq
    exact ⟨_, .lastElement helement, by simp [heq]⟩
  · have heq : tail = w' ++ 0x2c :: tail' := heq
    obtain ⟨text', htext', rfl⟩ := hf.items hmore
    exact ⟨_, .nextElement helement htext', by simp [heq]⟩

/-- A member in front of what is read, as the reader takes it apart. -/
theorem exists_of_readMembers {fuel : Nat} {bs rest : List UInt8}
    {ms : List (List UInt8 × Json)} (h : readMembers (fuel + 1) bs = some (ms, rest)) :
    ∃ w key lit w' more, Blanks w ∧ SpellsContent key lit ∧ Blanks w' ∧
      bs = w ++ quote :: (lit ++ quote :: (w' ++ 0x3a :: more)) := by
  obtain ⟨w, hw, hbs⟩ := exists_blanks bs
  rw [readMembers.eq_def] at h
  simp only at h
  generalize hcs : skipBlanks bs = cs at h hbs
  split at h
  · simp only [Option.bind_eq_bind, Option.bind_eq_some_iff] at h
    obtain ⟨⟨key, tail⟩, hread, h⟩ := h
    obtain ⟨lit, rfl, hlit⟩ := readString_eq_some_iff.1 hread
    obtain ⟨w', hw', htail⟩ := exists_blanks tail
    generalize skipBlanks tail = ds at h htail
    simp only at h
    split at h
    · exact ⟨w, key, lit, w', _, hw, hlit, hw', by rw [hbs, htail]; rfl⟩
    · cases h
  · cases h

theorem Faithful.members_succ {fuel : Nat} (hf : Faithful fuel) {bs rest : List UInt8}
    {ms : List (List UInt8 × Json)} (h : readMembers (fuel + 1) bs = some (ms, rest)) :
    ∃ text, Spells (.members ms) text ∧ bs = text ++ 0x7d :: rest := by
  obtain ⟨w, key, lit, w', more, hw, hlit, hw', rfl⟩ := exists_of_readMembers h
  rw [readMembers_succ hw hlit hw', Option.bind_eq_some_iff] at h
  obtain ⟨⟨v, tail⟩, hread, h⟩ := h
  obtain ⟨w₁, text, hw₁, htext, rfl⟩ := hf.value hread
  obtain ⟨w₂, hw₂, h⟩ := of_behind h
  have hmember : Spells (.member (key, v))
      (w ++ quote :: lit ++ quote :: w' ++ 0x3a :: (w₁ ++ text ++ w₂)) :=
    .member hw hlit hw' (.element hw₁ htext hw₂)
  rcases h with ⟨heq, rfl⟩ | ⟨more, tail', heq, hmore, rfl⟩
  · have heq : tail = w₂ ++ 0x7d :: rest := heq
    exact ⟨_, .lastMember hmember, by simp [heq]⟩
  · have heq : tail = w₂ ++ 0x2c :: tail' := heq
    obtain ⟨text', htext', rfl⟩ := hf.members hmore
    exact ⟨_, .nextMember hmember htext', by simp [heq]⟩

theorem faithful (fuel : Nat) : Faithful fuel := by
  induction fuel with
  | zero => exact faithful_zero
  | succ fuel ih => exact ⟨ih.value_succ, ih.items_succ, ih.members_succ⟩

/-! ## Whole texts -/

/-- **The reader accepts the texts of the grammar, each as the value it spells, and nothing
else.** -/
theorem read?_eq_some_iff {bs : List UInt8} {v : Json} :
    read? bs = some v ↔ Spells (.element v) bs := by
  constructor
  · intro h
    rw [read?] at h
    split at h
    · rename_i value rest hread
      split at h
      · rename_i hempty
        cases h
        obtain ⟨w, text, hw, htext, rfl⟩ := (faithful _).value hread
        obtain ⟨w', hw', hrest⟩ := exists_blanks rest
        rw [List.isEmpty_iff.1 hempty, List.append_nil] at hrest
        rw [hrest, ← List.append_assoc]
        exact .element hw htext hw'
      · cases h
    · cases h
  · intro h
    obtain ⟨w, hw, hread⟩ := h.reads (2 * bs.length + 1) [] (by omega) (halts_nil _)
    rw [List.append_nil] at hread
    rw [read?, hread]
    simp only [skipBlanks_append hw]
    rfl

end Interchain.Json
