import Interchain.Json.Reader

/-!
# The grammar of JSON texts

The texts of a value by RFC 8259, as a relation of its own beside the reader: blanks around every
token, numbers of any spelling, and string literals in which each character is written raw, by a
short escape, or by its code units. `SpellsContent` says so of the content of a literal, and
`Spells` of a value and of the parts that it is made of; a whole text is that of an element.

Two sorts of literals hold no text, and the grammar says what becomes of them too: raw bytes are
kept whether they are UTF-8 or not, and half of a surrogate pair without its other half stands
for three bytes that occur in no text.
-/

set_option autoImplicit false

namespace Interchain.Json

/-- Spaces, tabs, line feeds and carriage returns, any number of them. -/
def Blanks (bs : List UInt8) : Prop :=
  ∀ b ∈ bs, isBlank b = true

/-! ## String literals -/

/-- `b` is the hexadecimal digit for `n`, in either case. -/
def HexDigit (n : Nat) (b : UInt8) : Prop :=
  n < 16 ∧ (b = (Nat.digitChar n).toUInt8 ∨ b = (Nat.digitChar n).toUpper.toUInt8)

/-- Four hexadecimal digits and the code unit that they give. -/
inductive UnitDigits : Nat → List UInt8 → Prop
  | intro {n₁ n₂ n₃ n₄ : Nat} {b₁ b₂ b₃ b₄ : UInt8} :
      HexDigit n₁ b₁ → HexDigit n₂ b₂ → HexDigit n₃ b₃ → HexDigit n₄ b₄ →
      UnitDigits (((n₁ * 16 + n₂) * 16 + n₃) * 16 + n₄) [b₁, b₂, b₃, b₄]

/-- The escape of a code unit with the digits `ds`, with `bs` behind it. -/
def unitEscape (ds bs : List UInt8) : List UInt8 :=
  backslash :: 0x75 :: (ds ++ bs)

/-- The letters behind a backslash, each with the byte that the two stand for. -/
def shortEscapes : List (UInt8 × UInt8) :=
  [(0x22, 0x22), (0x5c, 0x5c), (0x2f, 0x2f), (0x62, 0x08), (0x66, 0x0c), (0x6e, 0x0a),
    (0x72, 0x0d), (0x74, 0x09)]

/-- Whether `bs` starts with the escape of the second half of a surrogate pair. -/
def StartsTrailing (bs : List UInt8) : Prop :=
  ∃ v ds more, bs = unitEscape ds more ∧ UnitDigits v ds ∧ 0xdc00 ≤ v ∧ v < 0xe000

/-- A content, and what may stand for it between the quotes of a literal. -/
inductive SpellsContent : List UInt8 → List UInt8 → Prop
  | nil : SpellsContent [] []
  /-- A byte of a character that stands for itself. -/
  | raw {b : UInt8} {content bs : List UInt8} : ¬ b < 0x20 → b ≠ quote → b ≠ backslash →
      SpellsContent content bs → SpellsContent (b :: content) (b :: bs)
  | short {e b : UInt8} {content bs : List UInt8} : (e, b) ∈ shortEscapes →
      SpellsContent content bs → SpellsContent (b :: content) (backslash :: e :: bs)
  /-- A character given by its code unit. -/
  | unit {c : Char} {ds content bs : List UInt8} : UnitDigits c.toNat ds →
      SpellsContent content bs →
      SpellsContent (String.utf8EncodeChar c ++ content) (unitEscape ds bs)
  /-- A character given by the two halves of a surrogate pair. -/
  | pair {c : Char} {high low : Nat} {ds es content bs : List UInt8} : high < 0x400 →
      low < 0x400 → c.toNat = 0x10000 + high * 0x400 + low → UnitDigits (0xd800 + high) ds →
      UnitDigits (0xdc00 + low) es → SpellsContent content bs →
      SpellsContent (String.utf8EncodeChar c ++ content) (unitEscape ds (unitEscape es bs))
  /-- Half of a surrogate pair without its other half. -/
  | half {u : Nat} {ds content bs : List UInt8} : 0xd800 ≤ u → u < 0xe000 → UnitDigits u ds →
      (u < 0xdc00 → ¬ StartsTrailing bs) → SpellsContent content bs →
      SpellsContent (spell u ++ content) (unitEscape ds bs)

/-! ## Numbers -/

/-- One digit or more. -/
def Digits (ds : List UInt8) : Prop :=
  ds ≠ [] ∧ ∀ d ∈ ds, isDigit d = true

/-- The digits before the point: a zero alone, or a run that does not start with one. -/
def Whole (ds : List UInt8) : Prop :=
  Digits ds ∧ (ds.head? = some 0x30 → ds = [0x30])

/-- Nothing, or a point and digits. -/
inductive Fraction : List UInt8 → Prop
  | none : Fraction []
  | digits {ds : List UInt8} : Digits ds → Fraction (0x2e :: ds)

/-- Nothing, or an exponent with or without a sign. -/
inductive Exponent : List UInt8 → Prop
  | none : Exponent []
  | digits {e : UInt8} {sign ds : List UInt8} : e ∈ [0x65, 0x45] →
      sign ∈ [[], [0x2b], [0x2d]] → Digits ds → Exponent (e :: sign ++ ds)

/-- The sign of a number. -/
def minus (negative : Bool) : List UInt8 :=
  if negative then [0x2d] else []

/-! ## Values -/

/-- What a JSON text is made of. -/
inductive Part where
  | value (v : Json)
  /-- A value with blanks around it. -/
  | element (v : Json)
  /-- One element or more, with commas between them. -/
  | elements (vs : List Json)
  | member (m : List UInt8 × Json)
  /-- One member or more, with commas between them. -/
  | members (ms : List (List UInt8 × Json))

/-- A part and a text of it. The whole text of a value is that of an element. -/
inductive Spells : Part → List UInt8 → Prop
  | null : Spells (.value .null) (Text.bytes "null")
  | bool (b : Bool) : Spells (.value (.bool b)) (Text.bytes (if b then "true" else "false"))
  | integer {negative : Bool} {ds : List UInt8} : Whole ds →
      Spells (.value (.integer negative (digitsValue ds))) (minus negative ++ ds)
  | real {negative : Bool} {ds frac exp : List UInt8} : Whole ds → Fraction frac →
      Exponent exp → frac ++ exp ≠ [] →
      Spells (.value (.real (minus negative ++ ds ++ (frac ++ exp))))
        (minus negative ++ ds ++ (frac ++ exp))
  | string {content lit : List UInt8} : SpellsContent content lit →
      Spells (.value (.string content)) (quote :: lit ++ [quote])
  | emptyArray {w : List UInt8} : Blanks w → Spells (.value (.array [])) (0x5b :: w ++ [0x5d])
  | array {vs : List Json} {bs : List UInt8} : Spells (.elements vs) bs →
      Spells (.value (.array vs)) (0x5b :: bs ++ [0x5d])
  | emptyObject {w : List UInt8} : Blanks w →
      Spells (.value (.object [])) (0x7b :: w ++ [0x7d])
  | object {ms : List (List UInt8 × Json)} {bs : List UInt8} : Spells (.members ms) bs →
      Spells (.value (.object ms)) (0x7b :: bs ++ [0x7d])
  | element {v : Json} {w bs w' : List UInt8} : Blanks w → Spells (.value v) bs → Blanks w' →
      Spells (.element v) (w ++ bs ++ w')
  | lastElement {v : Json} {bs : List UInt8} : Spells (.element v) bs →
      Spells (.elements [v]) bs
  | nextElement {v : Json} {vs : List Json} {bs bs' : List UInt8} : Spells (.element v) bs →
      Spells (.elements vs) bs' → Spells (.elements (v :: vs)) (bs ++ 0x2c :: bs')
  | member {key : List UInt8} {v : Json} {w lit w' bs : List UInt8} : Blanks w →
      SpellsContent key lit → Blanks w' → Spells (.element v) bs →
      Spells (.member (key, v)) (w ++ quote :: lit ++ quote :: w' ++ 0x3a :: bs)
  | lastMember {m : List UInt8 × Json} {bs : List UInt8} : Spells (.member m) bs →
      Spells (.members [m]) bs
  | nextMember {m : List UInt8 × Json} {ms : List (List UInt8 × Json)} {bs bs' : List UInt8} :
      Spells (.member m) bs → Spells (.members ms) bs' →
      Spells (.members (m :: ms)) (bs ++ 0x2c :: bs')

end Interchain.Json
