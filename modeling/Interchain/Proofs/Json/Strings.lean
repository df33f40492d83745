import Interchain.Proofs.Json.Grammar

/-!
# Reading string literals

A literal is read as its content, and only a literal is read (`readString_eq_some_iff`). Reading
goes over pieces: the bytes of a literal are the spellings of its pieces one after the other
(`readPieces_eq_some_iff`), and the pieces are joined to the content, where the halves of
surrogate pairs find each other (`exists_spellsPieces`).
-/

set_option autoImplicit false

namespace Interchain.Json

/-! ## Hexadecimal digits and short escapes -/

theorem hexDigit?_digitChar : ∀ n < 16, hexDigit? (Nat.digitChar n).toUInt8 = some n := by
  decide

theorem hexDigit?_toUpper : ∀ n < 16, hexDigit? (Nat.digitChar n).toUpper.toUInt8 = some n := by
  decide

theorem hexDigit_of_lt : ∀ k < 256, ∀ n ∈ hexDigit? (UInt8.ofNat k),
    HexDigit n (UInt8.ofNat k) := by
  unfold HexDigit
  decide +kernel

theorem hexDigit?_eq_some_iff {b : UInt8} {n : Nat} : hexDigit? b = some n ↔ HexDigit n b := by
  constructor
  · intro h
    have hb := hexDigit_of_lt b.toNat b.toNat_lt n
    rw [UInt8.ofNat_toNat] at hb
    exact hb h
  · rintro ⟨hn, rfl | rfl⟩
    · exact hexDigit?_digitChar n hn
    · exact hexDigit?_toUpper n hn

theorem codeUnit?_eq_some_iff {a b c d : UInt8} {u : Nat} :
    codeUnit? a b c d = some u ↔ UnitDigits u [a, b, c, d] := by
  constructor
  · intro h
    simp only [codeUnit?, Option.bind_eq_bind, Option.bind_eq_some_iff, Option.pure_def,
      Option.some.injEq] at h
    obtain ⟨n₁, h₁, n₂, h₂, n₃, h₃, n₄, h₄, rfl⟩ := h
    exact .intro (hexDigit?_eq_some_iff.1 h₁) (hexDigit?_eq_some_iff.1 h₂)
      (hexDigit?_eq_some_iff.1 h₃) (hexDigit?_eq_some_iff.1 h₄)
  · rintro ⟨h₁, h₂, h₃, h₄⟩
    rw [codeUnit?, hexDigit?_eq_some_iff.2 h₁, hexDigit?_eq_some_iff.2 h₂,
      hexDigit?_eq_some_iff.2 h₃, hexDigit?_eq_some_iff.2 h₄]
    rfl

theorem UnitDigits.exists_eq {u : Nat} {ds : List UInt8} (h : UnitDigits u ds) :
    ∃ a b c d, ds = [a, b, c, d] ∧ codeUnit? a b c d = some u := by
  cases h with
  | intro h₁ h₂ h₃ h₄ => exact ⟨_, _, _, _, rfl, codeUnit?_eq_some_iff.2 (.intro h₁ h₂ h₃ h₄)⟩

theorem shortEscape?_of_lt : ∀ k < 256, ∀ b ∈ shortEscape? (UInt8.ofNat k),
    (UInt8.ofNat k, b) ∈ shortEscapes := by
  decide +kernel

theorem shortEscape?_eq_some_iff {e b : UInt8} :
    shortEscape? e = some b ↔ (e, b) ∈ shortEscapes := by
  constructor
  · intro h
    have he := shortEscape?_of_lt e.toNat e.toNat_lt b
    rw [UInt8.ofNat_toNat] at he
    exact he h
  · intro h
    simp only [shortEscapes, List.mem_cons, Prod.mk.injEq, List.not_mem_nil, or_false] at h
    rcases h with ⟨rfl, rfl⟩ | ⟨rfl, rfl⟩ | ⟨rfl, rfl⟩ | ⟨rfl, rfl⟩ | ⟨rfl, rfl⟩ | ⟨rfl, rfl⟩ |
      ⟨rfl, rfl⟩ | ⟨rfl, rfl⟩ <;> decide

/-- No short escape has the letter of the long ones. -/
theorem ne_of_mem_shortEscapes {e b : UInt8} (h : (e, b) ∈ shortEscapes) : e ≠ 0x75 := by
  rintro rfl
  have hnone : shortEscape? 0x75 = none := by decide
  rw [← shortEscape?_eq_some_iff, hnone] at h
  cases h

/-! ## Pieces -/

/-- Pieces, and the bytes that spell them. -/
inductive SpellsPieces : List Piece → List UInt8 → Prop
  | nil : SpellsPieces [] []
  | raw {b : UInt8} {ps : List Piece} {bs : List UInt8} : ¬ b < 0x20 → b ≠ quote →
      b ≠ backslash → SpellsPieces ps bs → SpellsPieces (.byte b :: ps) (b :: bs)
  | short {e b : UInt8} {ps : List Piece} {bs : List UInt8} : (e, b) ∈ shortEscapes →
      SpellsPieces ps bs → SpellsPieces (.byte b :: ps) (backslash :: e :: bs)
  | unit {u : Nat} {ps : List Piece} {ds bs : List UInt8} : UnitDigits u ds →
      SpellsPieces ps bs → SpellsPieces (.unit u :: ps) (unitEscape ds bs)

theorem readPieces_quote (rest : List UInt8) : readPieces (quote :: rest) = some ([], rest) := by
  rw [readPieces.eq_def]
  simp

theorem readPieces_raw {b : UInt8} (hlow : ¬ b < 0x20) (hq : b ≠ quote) (hb : b ≠ backslash)
    (rest : List UInt8) :
    readPieces (b :: rest) = (readPieces rest).map fun r => (.byte b :: r.1, r.2) := by
  rw [readPieces.eq_def]
  simp [hq, hb, hlow]
  cases readPieces rest <;> rfl

theorem readPieces_short {e b : UInt8} (h : (e, b) ∈ shortEscapes) (rest : List UInt8) :
    readPieces (backslash :: e :: rest) =
      (readPieces rest).map fun r => (.byte b :: r.1, r.2) := by
  have hne : backslash ≠ quote := by decide
  rw [readPieces.eq_def]
  simp [hne, ne_of_mem_shortEscapes h, shortEscape?_eq_some_iff.2 h]
  cases readPieces rest <;> rfl

theorem readPieces_unit {u : Nat} {ds : List UInt8} (h : UnitDigits u ds) (rest : List UInt8) :
    readPieces (unitEscape ds rest) =
      (readPieces rest).map fun r => (.unit u :: r.1, r.2) := by
  obtain ⟨a, b, c, d, rfl, hu⟩ := h.exists_eq
  have hne : backslash ≠ quote := by decide
  simp only [unitEscape, List.cons_append, List.nil_append]
  rw [readPieces.eq_def]
  simp [hne, hu]
  cases readPieces rest <;> rfl

theorem readPieces_of_spells {ps : List Piece} {lit : List UInt8} (h : SpellsPieces ps lit)
    (rest : List UInt8) : readPieces (lit ++ quote :: rest) = some (ps, rest) := by
  induction h with
  | nil => exact readPieces_quote rest
  | raw hlow hq hb _ ih => rw [List.cons_append, readPieces_raw hlow hq hb, ih]; rfl
  | short hmem _ ih => rw [List.cons_append, List.cons_append, readPieces_short hmem, ih]; rfl
  | unit hu _ ih =>
      rw [unitEscape, List.cons_append, List.cons_append, List.append_assoc]
      rw [← unitEscape, readPieces_unit hu, ih]
      rfl

theorem spells_of_readPieces {ps : List Piece} {bs rest : List UInt8}
    (h : readPieces bs = some (ps, rest)) :
    ∃ lit, bs = lit ++ quote :: rest ∧ SpellsPieces ps lit := by
  fun_induction readPieces bs generalizing ps with
  | case1 => cases h
  | case2 more =>
      cases h
      exact ⟨[], rfl, .nil⟩
  | case3 => cases h
  | case4 a b c d more hne ih =>
      simp only [Option.bind_eq_bind, Option.bind_eq_some_iff, Option.pure_def,
        Option.some.injEq, Prod.mk.injEq] at h
      obtain ⟨u, hu, ⟨ps, _⟩, hps, rfl, rfl⟩ := h
      obtain ⟨lit, rfl, hlit⟩ := ih hps
      exact ⟨unitEscape [a, b, c, d] lit, rfl, .unit (codeUnit?_eq_some_iff.1 hu) hlit⟩
  | case5 => cases h
  | case6 e more hu hne ih =>
      simp only [Option.bind_eq_bind, Option.bind_eq_some_iff, Option.pure_def,
        Option.some.injEq, Prod.mk.injEq] at h
      obtain ⟨b, hb, ⟨ps, _⟩, hps, rfl, rfl⟩ := h
      obtain ⟨lit, rfl, hlit⟩ := ih hps
      exact ⟨backslash :: e :: lit, rfl, .short (shortEscape?_eq_some_iff.1 hb) hlit⟩
  | case7 => cases h
  | case8 b more hq hb hlow ih =>
      simp only [Option.bind_eq_bind, Option.bind_eq_some_iff, Option.pure_def,
        Option.some.injEq, Prod.mk.injEq] at h
      obtain ⟨⟨ps, _⟩, hps, rfl, rfl⟩ := h
      obtain ⟨lit, rfl, hlit⟩ := ih hps
      exact ⟨b :: lit, rfl, .raw hlow hq hb hlit⟩

/-- Pieces are read from their spelling up to the quote behind it. -/
theorem readPieces_eq_some_iff {ps : List Piece} {bs rest : List UInt8} :
    readPieces bs = some (ps, rest) ↔ ∃ lit, bs = lit ++ quote :: rest ∧ SpellsPieces ps lit := by
  constructor
  · exact spells_of_readPieces
  · rintro ⟨lit, rfl, h⟩
    exact readPieces_of_spells h rest

/-! ## Halves of surrogate pairs -/

theorem isLeading_iff {u : Nat} : isLeading u = true ↔ 0xd800 ≤ u ∧ u < 0xdc00 := by
  simp [isLeading]

theorem isTrailing_iff {u : Nat} : isTrailing u = true ↔ 0xdc00 ≤ u ∧ u < 0xe000 := by
  simp [isTrailing]

theorem UnitDigits.lt {u : Nat} {ds : List UInt8} (h : UnitDigits u ds) : u < 0x10000 := by
  obtain ⟨⟨h₁, -⟩, ⟨h₂, -⟩, ⟨h₃, -⟩, ⟨h₄, -⟩⟩ := h
  omega

theorem unitEscape_inj {u v : Nat} {ds es bs cs : List UInt8} (hu : UnitDigits u ds)
    (hv : UnitDigits v es) (h : unitEscape ds bs = unitEscape es cs) : u = v ∧ bs = cs := by
  obtain ⟨a, b, c, d, rfl, hcode⟩ := hu.exists_eq
  obtain ⟨a', b', c', d', rfl, hcode'⟩ := hv.exists_eq
  simp only [unitEscape, List.cons_append, List.nil_append, List.cons.injEq, true_and] at h
  obtain ⟨rfl, rfl, rfl, rfl, rfl⟩ := h
  exact ⟨Option.some.inj (hcode.symm.trans hcode'), rfl⟩

/-- The escape of a second half stands in front exactly if the first piece is one. -/
theorem startsTrailing_iff {ps : List Piece} {bs : List UInt8} (h : SpellsPieces ps bs) :
    StartsTrailing bs ↔ ∃ v more, ps = .unit v :: more ∧ isTrailing v = true := by
  constructor
  · rintro ⟨v, ds, more, hbs, hv, hle, hlt⟩
    cases h with
    | nil => cases hbs
    | raw _ _ hb _ =>
        cases hbs
        exact absurd rfl hb
    | short hmem _ =>
        cases hbs
        exact absurd rfl (ne_of_mem_shortEscapes hmem)
    | unit hu _ =>
        obtain ⟨rfl, rfl⟩ := unitEscape_inj hu hv hbs
        exact ⟨_, _, rfl, isTrailing_iff.2 ⟨hle, hlt⟩⟩
  · rintro ⟨v, more, rfl, hv⟩
    cases h with
    | unit hu _ =>
        obtain ⟨hle, hlt⟩ := isTrailing_iff.1 hv
        exact ⟨v, _, _, rfl, hu, hle, hlt⟩

/-- A code unit without its other half behind it stands for itself. -/
theorem joinPieces_alone {u : Nat} {ps : List Piece}
    (h : ∀ v more, ps = .unit v :: more → ¬ (isLeading u = true ∧ isTrailing v = true)) :
    joinPieces (.unit u :: ps) = spell u ++ joinPieces ps := by
  cases ps with
  | nil => simp [joinPieces]
  | cons p more =>
      cases p with
      | byte b => simp [joinPieces]
      | unit v =>
          have hv := h v more rfl
          rw [joinPieces, if_neg (by simpa using hv)]

theorem spell_char (c : Char) : spell c.toNat = String.utf8EncodeChar c := by
  have hvalid : c.toNat.isValidChar := c.valid
  rw [spell, if_pos hvalid, Char.ofNat_toNat]

theorem exists_char {n : Nat} (h : n.isValidChar) : ∃ c : Char, c.toNat = n :=
  ⟨Char.ofNat n, by rw [Char.ofNat, dif_pos h]; rfl⟩

/-- A code unit that is no first half of what follows spells a character or is half a pair. -/
theorem SpellsContent.alone {u : Nat} {ds content bs : List UInt8} (hu : UnitDigits u ds)
    (hno : u < 0xdc00 → 0xd800 ≤ u → ¬ StartsTrailing bs) (h : SpellsContent content bs) :
    SpellsContent (spell u ++ content) (unitEscape ds bs) := by
  by_cases hvalid : u.isValidChar
  · obtain ⟨c, rfl⟩ := exists_char hvalid
    rw [spell_char]
    exact .unit hu h
  · have hlt := hu.lt
    have hle : 0xd800 ≤ u ∧ u < 0xe000 := by
      simp only [Nat.isValidChar] at hvalid
      omega
    exact .half hle.1 hle.2 hu (fun hlt => hno hlt hle.1) h

/-- The two halves of a pair spell the character that they make. -/
theorem SpellsContent.joined {u v : Nat} {ds es content bs : List UInt8} (hu : UnitDigits u ds)
    (hv : UnitDigits v es) (hleading : isLeading u = true) (htrailing : isTrailing v = true)
    (h : SpellsContent content bs) :
    SpellsContent (spell (0x10000 + (u - 0xd800) * 0x400 + (v - 0xdc00)) ++ content)
      (unitEscape ds (unitEscape es bs)) := by
  obtain ⟨hule, hult⟩ := isLeading_iff.1 hleading
  obtain ⟨hvle, hvlt⟩ := isTrailing_iff.1 htrailing
  obtain ⟨high, rfl⟩ := Nat.exists_eq_add_of_le hule
  obtain ⟨low, rfl⟩ := Nat.exists_eq_add_of_le hvle
  have hvalid : (0x10000 + high * 0x400 + low).isValidChar := by
    simp only [Nat.isValidChar]
    omega
  obtain ⟨c, hc⟩ := exists_char hvalid
  rw [Nat.add_sub_cancel_left, Nat.add_sub_cancel_left, ← hc, spell_char]
  exact .pair (by omega) (by omega) hc hu hv h

/-! ## Contents -/

theorem exists_spellsPieces {content lit : List UInt8} (h : SpellsContent content lit) :
    ∃ ps, SpellsPieces ps lit ∧ joinPieces ps = content := by
  induction h with
  | nil => exact ⟨[], .nil, by rw [joinPieces]⟩
  | raw hlow hq hb _ ih =>
      obtain ⟨ps, hps, rfl⟩ := ih
      exact ⟨_, .raw hlow hq hb hps, by rw [joinPieces]⟩
  | short hmem _ ih =>
      obtain ⟨ps, hps, rfl⟩ := ih
      exact ⟨_, .short hmem hps, by rw [joinPieces]⟩
  | @unit c ds content bs hu _ ih =>
      obtain ⟨ps, hps, rfl⟩ := ih
      refine ⟨_, .unit hu hps, ?_⟩
      have hleading : ¬ isLeading c.toNat = true := by
        have hvalid : c.toNat.isValidChar := c.valid
        simp only [Nat.isValidChar] at hvalid
        rw [isLeading_iff]
        omega
      rw [joinPieces_alone fun _ _ _ h => hleading h.1, spell_char]
  | @pair c high low ds es content bs hhigh hlow hc hds hes _ ih =>
      obtain ⟨ps, hps, rfl⟩ := ih
      refine ⟨_, .unit hds (.unit hes hps), ?_⟩
      have hleading : isLeading (0xd800 + high) = true := isLeading_iff.2 (by omega)
      have htrailing : isTrailing (0xdc00 + low) = true := isTrailing_iff.2 (by omega)
      rw [joinPieces, if_pos (by rw [hleading, htrailing]; rfl), ← spell_char, hc,
        Nat.add_sub_cancel_left, Nat.add_sub_cancel_left]
  | @half u ds content bs hle hlt hu hno _ ih =>
      obtain ⟨ps, hps, rfl⟩ := ih
      refine ⟨_, .unit hu hps, joinPieces_alone ?_⟩
      rintro v more rfl ⟨hleading, htrailing⟩
      exact hno (isLeading_iff.1 hleading).2 ((startsTrailing_iff hps).2 ⟨v, more, rfl, htrailing⟩)

/-- Pieces are joined to what their spelling stands for. The second half of a surrogate pair can
be taken by the piece in front of it, so what stands behind it is kept in view. -/
theorem SpellsPieces.content {ps : List Piece} {lit : List UInt8} (h : SpellsPieces ps lit) :
    SpellsContent (joinPieces ps) lit ∧
      ∀ v more, ps = .unit v :: more → ∃ ds bs, lit = unitEscape ds bs ∧ UnitDigits v ds ∧
        SpellsContent (joinPieces more) bs := by
  induction h with
  | nil =>
      refine ⟨?_, fun _ _ h => by cases h⟩
      rw [joinPieces]
      exact .nil
  | raw hlow hq hb _ ih =>
      refine ⟨?_, fun _ _ h => by cases h⟩
      rw [joinPieces]
      exact .raw hlow hq hb ih.1
  | short hmem _ ih =>
      refine ⟨?_, fun _ _ h => by cases h⟩
      rw [joinPieces]
      exact .short hmem ih.1
  | @unit u ps ds bs hu hps ih =>
      refine ⟨?_, fun v more h => by cases h; exact ⟨ds, bs, rfl, hu, ih.1⟩⟩
      by_cases hpair : ∃ v more, ps = .unit v :: more ∧ isLeading u = true ∧ isTrailing v = true
      · -- the next piece is the other half, and what stands behind that is already known
        obtain ⟨v, more, rfl, hleading, htrailing⟩ := hpair
        obtain ⟨es, bs, rfl, hv, hmore⟩ := ih.2 v more rfl
        rw [joinPieces, if_pos (by rw [hleading, htrailing]; rfl)]
        exact .joined hu hv hleading htrailing hmore
      · rw [joinPieces_alone fun v more h hv => hpair ⟨v, more, h, hv⟩]
        refine .alone hu (fun hlt hle hstarts => ?_) ih.1
        obtain ⟨v, more, rfl, htrailing⟩ := (startsTrailing_iff hps).1 hstarts
        exact hpair ⟨v, more, rfl, isLeading_iff.2 ⟨hle, hlt⟩, htrailing⟩

/-- **A literal is read as its content, and nothing but a literal is read.** -/
theorem readString_eq_some_iff {bs content rest : List UInt8} :
    readString bs = some (content, rest) ↔
      ∃ lit, bs = lit ++ quote :: rest ∧ SpellsContent content lit := by
  constructor
  · intro h
    simp only [readString, Option.bind_eq_bind, Option.bind_eq_some_iff, Option.pure_def,
      Option.some.injEq, Prod.mk.injEq] at h
    obtain ⟨⟨ps, _⟩, hps, rfl, rfl⟩ := h
    obtain ⟨lit, rfl, hlit⟩ := readPieces_eq_some_iff.1 hps
    exact ⟨lit, rfl, hlit.content.1⟩
  · rintro ⟨lit, rfl, h⟩
    obtain ⟨ps, hps, rfl⟩ := exists_spellsPieces h
    rw [readString, readPieces_of_spells hps]
    rfl

end Interchain.Json
