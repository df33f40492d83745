/-!
# Texts and their UTF-8 bytes

Packets, addresses and hashes are about bytes, while denominations and identifiers are
texts. `bytes` spells a text in UTF-8 and `ofBytes?` reads a spelling back;
`ofBytes?_eq_some_iff` says that a byte sequence is read only when it is the spelling of
the text it is read as. Positions in a text count bytes too; a text is cut only between characters.
-/

set_option autoImplicit false

namespace Interchain.Text

/-- The UTF-8 spelling of a text. -/
def bytes (s : String) : List UInt8 :=
  s.toUTF8.data.toList

/-- The text that a byte sequence spells in UTF-8, if it spells one. -/
def ofBytes? (bs : List UInt8) : Option String :=
  String.fromUTF8? ⟨bs.toArray⟩

theorem ofBytes?_eq_some_iff {bs : List UInt8} {s : String} :
    ofBytes? bs = some s ↔ bs = bytes s := by
  unfold ofBytes? String.fromUTF8? bytes
  constructor
  · intro h
    split at h
    · cases h
      rfl
    · cases h
  · rintro rfl
    exact dif_pos s.isValidUTF8

@[simp]
theorem ofBytes?_bytes (s : String) : ofBytes? (bytes s) = some s :=
  ofBytes?_eq_some_iff.2 rfl

theorem bytes_inj {s t : String} : bytes s = bytes t ↔ s = t := by
  constructor
  · intro h
    have hs := ofBytes?_bytes s
    rw [h, ofBytes?_bytes] at hs
    exact (Option.some.inj hs).symm
  · rintro rfl
    rfl

@[simp]
theorem bytes_append (s t : String) : bytes (s ++ t) = bytes s ++ bytes t := by
  simp [bytes]

/-! ## Positions -/

/-- The number of bytes of the UTF-8 spelling. -/
def byteLength : List Char → Nat
  | [] => 0
  | c :: cs => c.utf8Size + byteLength cs

/-- The first `n` bytes of a text, if they are whole characters. -/
def takeBytes? : Nat → List Char → Option (List Char)
  | 0, _ => some []
  | _ + 1, [] => none
  | n + 1, c :: cs =>
      if c.utf8Size ≤ n + 1 then (takeBytes? (n + 1 - c.utf8Size) cs).map (c :: ·) else none

/-- A text without its first `n` bytes, if they are whole characters. -/
def dropBytes? : Nat → List Char → Option (List Char)
  | 0, cs => some cs
  | _ + 1, [] => none
  | n + 1, c :: cs => if c.utf8Size ≤ n + 1 then dropBytes? (n + 1 - c.utf8Size) cs else none

end Interchain.Text
