import Interchain.Identifier
import Interchain.Sha256
import Interchain.Text.Bytes
import Interchain.Text.Hex

/-!
# Account addresses

The address of a user is given as text. Modules and escrow accounts own addresses too, derived
from a hash of what they stand for, so that every node finds the same account. The bytes that
are hashed start with a fixed tag each, and the separators of an escrow's parts do not occur in
ports and channels.
-/

set_option autoImplicit false

namespace Interchain

namespace Address

/-- The characters that every address starts with. -/
def start : List Char :=
  "mrd1".toList

/-- Lower-case letters and digits. -/
def isAddressChar (c : Char) : Bool :=
  c.isLower || c.isDigit

/-- The fixed start, then at least one character, at most ninety in all. -/
def rule (s : String) : Bool :=
  let rest := s.toList.drop start.length
  s.toList.take start.length == start && !rest.isEmpty && s.length ≤ 90 && rest.all isAddressChar

end Address

/-- An account of this chain. -/
abbrev Address := Validated Address.rule

namespace Address

def parse (s : String) : Except FormatError Address :=
  match Validated.ofString? s with
  | some a => .ok a
  | none => .error (.address s)

@[simp]
theorem parse_text (a : Address) : parse a.text = .ok a := by
  simp [parse]

/-- The number of bytes of a digest that an address shows. -/
def digestBytes : Nat := 20

/-- The text of the address derived from a byte sequence. -/
def derivedText (seed : List UInt8) : String :=
  String.ofList (start ++ Text.Hex.lower ((Sha256.digest seed).take digestBytes))

theorem rule_derivedText (seed : List UInt8) : rule (derivedText seed) = true := by
  have hlen : (Text.Hex.lower ((Sha256.digest seed).take digestBytes)).length = 40 := by
    simp [digestBytes]
  have hne : (Text.Hex.lower ((Sha256.digest seed).take digestBytes)).isEmpty = false := by
    rw [List.isEmpty_eq_false_iff, ← List.length_pos_iff]
    omega
  have hall := Text.Hex.lower_all (p := isAddressChar) (by decide)
    ((Sha256.digest seed).take digestBytes)
  have hstart : start.length = 4 := by decide
  have hcount : start.length + 40 ≤ 90 := by decide
  simp [rule, derivedText, hlen, hne, hall, hcount]

/-- The address derived from a byte sequence. -/
def derive (seed : List UInt8) : Address :=
  ⟨derivedText seed, rule_derivedText seed⟩

/-- What the address of a module is derived from. -/
def moduleSeed (name : String) : List UInt8 :=
  Text.bytes "module" ++ Text.bytes name

/-- What the address of a channel's escrow account is derived from. -/
def escrowSeed (port : Port) (channel : Channel) : List UInt8 :=
  Text.bytes "ics20-1" ++ 0 :: Text.bytes port.text ++ Text.bytes "/" ++ Text.bytes channel.text

/-- The account that the named module owns. -/
def ofModule (name : String) : Address :=
  derive (moduleSeed name)

/-- The account that holds the tokens sent over a channel. -/
def escrow (port : Port) (channel : Channel) : Address :=
  derive (escrowSeed port channel)

end Address

end Interchain
