import Interchain.Proofs.Json.Reader
import Interchain.Proofs.Numeral

/-!
# The compact form and the grammar

The compact form of a value is a text of it (`Exact.spells`), so reading it gives the value
(`read?_print`), whatever is in its strings. Only a number with a fraction or an exponent is kept
as it is written, and has to be one.
-/

set_option autoImplicit false

namespace Interchain

/-! ## Bytes of texts in ASCII -/

theorem Text.bytes_ofList (cs : List Char) :
    bytes (String.ofList cs) = cs.flatMap String.utf8EncodeChar := by
  simp [bytes, List.utf8Encode]

theorem Text.utf8EncodeChar_ascii {c : Char} (h : c.toNat < 128) :
    String.utf8EncodeChar c = [c.toUInt8] := by
  have hle : c.val.toNat ≤ 127 := Nat.le_of_lt_succ h
  simp only [String.utf8EncodeChar]
  rw [if_pos hle]
  rfl

theorem Text.bytes_ofList_ascii {cs : List Char} (h : ∀ c ∈ cs, c.toNat < 128) :
    bytes (String.ofList cs) = cs.map Char.toUInt8 := by
  rw [bytes_ofList]
  induction cs with
  | nil => rfl
  | cons c cs ih =>
      rw [List.flatMap_cons, utf8EncodeChar_ascii (h c List.mem_cons_self),
        ih fun d hd => h d (List.mem_cons_of_mem _ hd)]
      rfl

namespace Json

/-! ## String literals -/

/-- The controls that have an escape of one letter. -/
def lettered : List UInt8 :=
  [0x08, 0x09, 0x0a, 0x0c, 0x0d]

theorem hexDigit_digitChar {n : Nat} (h : n < 16) : HexDigit n (Nat.digitChar n).toUInt8 :=
  ⟨h, .inl rfl⟩

/-- The digits of the escape of a control give its number. -/
theorem unitDigits_pair (b : UInt8) :
    UnitDigits b.toNat (0x30 :: 0x30 :: (Text.Hex.pair b).map Char.toUInt8) := by
  have hlt : b.toNat < 256 := b.toNat_lt
  have hzero : HexDigit 0 0x30 := hexDigit_digitChar (by decide)
  have hdigits := UnitDigits.intro hzero hzero (hexDigit_digitChar (n := b.toNat / 16) (by omega))
    (hexDigit_digitChar (n := b.toNat % 16) (by omega))
  have hvalue : ((0 * 16 + 0) * 16 + b.toNat / 16) * 16 + b.toNat % 16 = b.toNat := by omega
  rw [hvalue] at hdigits
  exact hdigits

theorem spell_control : ∀ n < 0x20, spell n = [UInt8.ofNat n] := by
  decide

/-- A printed byte stands for itself in a literal. -/
theorem SpellsContent.byte (b : UInt8) {content lit : List UInt8}
    (h : SpellsContent content lit) : SpellsContent (b :: content) (escapeByte b ++ lit) := by
  by_cases hsign : b = quote ∨ b = backslash
  · -- a sign of the syntax stands behind a backslash as it is
    have hescape : escapeByte b = [backslash, b] := by simp [escapeByte, hsign]
    rw [hescape]
    rcases hsign with rfl | rfl
    · exact .short (by decide) h
    · exact .short (by decide) h
  by_cases hletter : b ∈ lettered
  · simp only [lettered, List.mem_cons, List.not_mem_nil, or_false] at hletter
    -- each of these controls has a letter of its own
    rcases hletter with rfl | rfl | rfl | rfl | rfl
    · exact .short (e := 0x62) (by decide) h
    · exact .short (e := 0x74) (by decide) h
    · exact .short (e := 0x6e) (by decide) h
    · exact .short (e := 0x66) (by decide) h
    · exact .short (e := 0x72) (by decide) h
  have hplain : escapeByte b = if b < 0x20 then
      [backslash, 0x75, 0x30, 0x30] ++ (Text.Hex.pair b).map Char.toUInt8 else [b] := by
    simp only [lettered, List.mem_cons, List.not_mem_nil, or_false, not_or] at hletter hsign
    simp [escapeByte, hsign, hletter]
  by_cases hlow : b < 0x20
  · have hnat : b.toNat < 0x20 := UInt8.lt_iff_toNat_lt.1 hlow
    have hunit : SpellsContent (spell b.toNat ++ content) _ :=
      SpellsContent.alone (unitDigits_pair b) (fun _ h => by omega) h
    rw [spell_control _ hnat, UInt8.ofNat_toNat] at hunit
    rw [hplain, if_pos hlow]
    exact hunit
  · rw [hplain, if_neg hlow]
    exact .raw hlow (fun h => hsign (.inl h)) (fun h => hsign (.inr h)) h

theorem spellsContent_escaped (content : List UInt8) :
    SpellsContent content (content.flatMap escapeByte) := by
  induction content with
  | nil => exact .nil
  | cons b content ih => exact .byte b ih

/-! ## Integers -/

/-- The digits of a number as bytes. -/
def digitBytes (n : Nat) : List UInt8 :=
  (Nat.toDigits 10 n).map Char.toUInt8

theorem toNat_toUInt8_of_isDigit {c : Char} (h : c.isDigit = true) :
    c.toUInt8.toNat = c.toNat := by
  obtain ⟨-, hle⟩ := Numeral.toNat_of_isDigit h
  show c.toNat % 256 = c.toNat
  omega

theorem digits_digitBytes (n : Nat) : Digits (digitBytes n) := by
  refine ⟨by simp [digitBytes], ?_⟩
  intro d hd
  obtain ⟨c, hc, rfl⟩ := List.mem_map.1 hd
  have hdigit := Numeral.isDigit_of_mem_toDigits hc
  obtain ⟨hle, hge⟩ := Numeral.toNat_of_isDigit hdigit
  rw [← toNat_toUInt8_of_isDigit hdigit] at hle hge
  simp only [isDigit, Bool.and_eq_true, decide_eq_true_eq]
  exact ⟨UInt8.le_iff_toNat_le.2 hle, UInt8.le_iff_toNat_le.2 hge⟩

theorem whole_digitBytes (n : Nat) : Whole (digitBytes n) := by
  refine ⟨digits_digitBytes n, fun h => ?_⟩
  obtain ⟨c, hc, hzero⟩ : ∃ c, (Nat.toDigits 10 n).head? = some c ∧ c.toUInt8 = 0x30 := by
    simpa [digitBytes] using h
  have hdigit := Numeral.isDigit_of_mem_toDigits (List.mem_of_head? hc)
  have hnat : c.toNat = 48 := by rw [← toNat_toUInt8_of_isDigit hdigit, hzero]; rfl
  have hc0 : c = '0' := Char.toNat_inj.1 hnat
  rw [digitBytes, Numeral.toDigits_of_head? (hc0 ▸ hc)]
  rfl

theorem digitsValue_digitBytes (n : Nat) : digitsValue (digitBytes n) = n := by
  have hfold : ∀ (cs : List Char) (k : Nat), (∀ c ∈ cs, c.isDigit = true) →
      (cs.map Char.toUInt8).foldl (fun n d => 10 * n + (d.toNat - 0x30)) k =
        Nat.ofDigitChars 10 cs k := by
    intro cs
    induction cs with
    | nil => exact fun _ _ => rfl
    | cons c cs ih =>
        intro k h
        rw [List.map_cons, List.foldl_cons, ih _ fun d hd => h d (List.mem_cons_of_mem _ hd),
          toNat_toUInt8_of_isDigit (h c List.mem_cons_self)]
        rfl
  calc digitsValue (digitBytes n) = Nat.ofDigitChars 10 (Nat.toDigits 10 n) 0 :=
        hfold _ 0 fun _ hc => Numeral.isDigit_of_mem_toDigits hc
    _ = n := Nat.ofDigitChars_ten_toDigits

theorem bytes_toString (n : Nat) : Text.bytes (toString n) = digitBytes n := by
  rw [Nat.toString_eq_ofList_toDigits]
  refine Text.bytes_ofList_ascii fun c hc => ?_
  have hle := (Numeral.toNat_of_isDigit (Numeral.isDigit_of_mem_toDigits hc)).2
  omega

theorem print_integer (negative : Bool) (n : Nat) :
    (integer negative n).print = minus negative ++ digitBytes n := by
  rw [← bytes_toString]
  cases negative with
  | true =>
      have hminus : Text.bytes "-" = [0x2d] := by decide
      simp [print, minus, hminus]
  | false => simp [print, minus]

theorem spells_integer (negative : Bool) (n : Nat) :
    Spells (.value (.integer negative n)) (integer negative n).print := by
  have h : Spells (.value (.integer negative (digitsValue (digitBytes n)))) _ :=
    .integer (whole_digitBytes n)
  rw [digitsValue_digitBytes] at h
  rw [print_integer]
  exact h

/-! ## Arrays and objects -/

theorem blanks_nil : Blanks [] :=
  fun _ h => absurd h List.not_mem_nil

/-- The text of a value is one of an element. -/
theorem Spells.toElement {v : Json} {bs : List UInt8} (h : Spells (.value v) bs) :
    Spells (.element v) bs := by
  have helement := Spells.element blanks_nil h blanks_nil
  rw [List.nil_append, List.append_nil] at helement
  exact helement

theorem spells_items (v : Json) (vs : List Json)
    (h : ∀ w ∈ v :: vs, Spells (.value w) w.print) :
    Spells (.elements (v :: vs)) (v.print ++ printItems vs) := by
  have hv := (h v List.mem_cons_self).toElement
  induction vs generalizing v with
  | nil =>
      rw [printItems, List.append_nil]
      exact .lastElement hv
  | cons w vs ih =>
      rw [printItems]
      have hmore : ∀ u ∈ w :: vs, Spells (.value u) u.print := fun u hu =>
        h u (List.mem_cons_of_mem _ hu)
      exact .nextElement hv (ih w hmore (hmore w List.mem_cons_self).toElement)

theorem spells_member (m : List UInt8 × Json) (h : Spells (.value m.2) m.2.print) :
    Spells (.member m) (printString m.1 ++ 0x3a :: m.2.print) := by
  have hmember := Spells.member blanks_nil (spellsContent_escaped m.1) blanks_nil h.toElement
  simpa [printString] using hmember

theorem spells_members (m : List UInt8 × Json) (ms : List (List UInt8 × Json))
    (h : ∀ k ∈ m :: ms, Spells (.value k.2) k.2.print) :
    Spells (.members (m :: ms)) (printString m.1 ++ 0x3a :: m.2.print ++ printMembers ms) := by
  have hm := spells_member m (h m List.mem_cons_self)
  induction ms generalizing m with
  | nil =>
      rw [printMembers, List.append_nil]
      exact .lastMember hm
  | cons k ms ih =>
      rw [printMembers]
      have hmore : ∀ u ∈ k :: ms, Spells (.value u.2) u.2.print := fun u hu =>
        h u (List.mem_cons_of_mem _ hu)
      exact .nextMember hm (ih k hmore (spells_member k (hmore k List.mem_cons_self)))

/-! ## Values -/

/-- Whether every number in the value that is kept as it is written is a number. -/
inductive Exact : Json → Prop
  | null : Exact .null
  | bool (b : Bool) : Exact (.bool b)
  | integer (negative : Bool) (n : Nat) : Exact (.integer negative n)
  | real {negative : Bool} {ds frac exp : List UInt8} : Whole ds → Fraction frac →
      Exponent exp → frac ++ exp ≠ [] → Exact (.real (minus negative ++ ds ++ (frac ++ exp)))
  | string (content : List UInt8) : Exact (.string content)
  | array {vs : List Json} : (∀ v ∈ vs, Exact v) → Exact (.array vs)
  | object {ms : List (List UInt8 × Json)} : (∀ m ∈ ms, Exact m.2) → Exact (.object ms)

@[simp]
theorem Exact.text (s : String) : Exact (.text s) :=
  .string _

@[simp]
theorem Exact.ofNat (n : Nat) : Exact (.ofNat n) :=
  .integer false n

theorem Exact.ofMembers {ms : List (String × Json)} (h : ∀ m ∈ ms, Exact m.2) :
    Exact (.ofMembers ms) := by
  refine .object fun m hm => ?_
  obtain ⟨k, hk, rfl⟩ := List.mem_map.1 hm
  exact h k hk

/-- **The compact form of a value is a text of it.** -/
theorem Exact.spells {v : Json} (h : Exact v) : Spells (.value v) v.print := by
  induction h with
  | null => exact .null
  | bool b =>
      cases b with
      | true => exact .bool true
      | false => exact .bool false
  | integer negative n => exact spells_integer negative n
  | real hds hfrac hexp hne => exact .real hds hfrac hexp hne
  | string content => exact .string (spellsContent_escaped content)
  | @array vs _ ih =>
      cases vs with
      | nil => exact .emptyArray blanks_nil
      | cons v vs => exact .array (spells_items v vs ih)
  | @object ms _ ih =>
      cases ms with
      | nil => exact .emptyObject blanks_nil
      | cons m ms => exact .object (spells_members m ms ih)

/-- **What is printed in compact form is read as the value.** -/
theorem read?_print {v : Json} (h : Exact v) : read? v.print = some v :=
  read?_eq_some_iff.2 h.spells.toElement

end Json

end Interchain
