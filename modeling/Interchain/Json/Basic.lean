import Interchain.Text.Bytes
import Interchain.Text.Hex

/-!
# JSON values and their compact form

A value as it stands in a JSON text: members in the order written, repeated or not, and numbers
apart by spelling into integers and all others. The content of a string literal is a byte
sequence; it is the UTF-8 spelling of a text except where the literal holds half of a surrogate
pair or stray bytes, which only a reader that asks for the text minds.

The compact form has no blanks. Strings escape quotes, backslashes and controls and nothing
else.
-/

set_option autoImplicit false

namespace Interchain

/-- A JSON value. -/
inductive Json where
  | null
  | bool (b : Bool)
  /-- A number without fraction and exponent. -/
  | integer (negative : Bool) (magnitude : Nat)
  /-- Any other number, as it is written. -/
  | real (literal : List UInt8)
  | string (content : List UInt8)
  | array (items : List Json)
  | object (members : List (List UInt8 × Json))

namespace Json

instance : Inhabited Json := ⟨null⟩

/-- The string of a text. -/
def text (s : String) : Json :=
  .string (Text.bytes s)

def ofNat (n : Nat) : Json :=
  .integer false n

/-- The object with members under texts. -/
def ofMembers (ms : List (String × Json)) : Json :=
  .object (ms.map fun m => (Text.bytes m.1, m.2))

/-! ## The compact form -/

def quote : UInt8 := 0x22

def backslash : UInt8 := 0x5c

/-- One byte of the content of a string literal. -/
def escapeByte (b : UInt8) : List UInt8 :=
  if b = quote || b = backslash then [backslash, b]
  else if b = 0x08 then [backslash, 0x62]
  else if b = 0x09 then [backslash, 0x74]
  else if b = 0x0a then [backslash, 0x6e]
  else if b = 0x0c then [backslash, 0x66]
  else if b = 0x0d then [backslash, 0x72]
  else if b < 0x20 then
    [backslash, 0x75, 0x30, 0x30] ++ (Text.Hex.pair b).map Char.toUInt8
  else [b]

/-- A string literal. -/
def printString (content : List UInt8) : List UInt8 :=
  quote :: content.flatMap escapeByte ++ [quote]

mutual

/-- The compact form of a value. -/
def print : Json → List UInt8
  | .null => Text.bytes "null"
  | .bool true => Text.bytes "true"
  | .bool false => Text.bytes "false"
  | .integer negative n => Text.bytes (if negative then "-" ++ toString n else toString n)
  | .real literal => literal
  | .string content => printString content
  | .array [] => [0x5b, 0x5d]
  | .array (item :: items) => 0x5b :: print item ++ printItems items ++ [0x5d]
  | .object [] => [0x7b, 0x7d]
  | .object (member :: members) =>
      0x7b :: printString member.1 ++ 0x3a :: print member.2 ++ printMembers members ++ [0x7d]

/-- The items of an array after the first one. -/
def printItems : List Json → List UInt8
  | [] => []
  | item :: items => 0x2c :: print item ++ printItems items

/-- The members of an object after the first one. -/
def printMembers : List (List UInt8 × Json) → List UInt8
  | [] => []
  | member :: members =>
      0x2c :: printString member.1 ++ 0x3a :: print member.2 ++ printMembers members

end

end Json

end Interchain
