import Interchain.Json.Basic

/-!
# Reading JSON texts

The grammar of RFC 8259 on bytes: blanks are space, tab, line feed and carriage return, nothing
follows the value, and a literal holds no raw control character. Values nest to any depth. Each
reader takes the unread bytes and returns what it read with the bytes behind it.
-/

set_option autoImplicit false

namespace Interchain.Json

def isBlank (b : UInt8) : Bool :=
  b = 0x20 || b = 0x09 || b = 0x0a || b = 0x0d

def skipBlanks (bs : List UInt8) : List UInt8 :=
  bs.dropWhile isBlank

def isDigit (b : UInt8) : Bool :=
  0x30 ≤ b && b ≤ 0x39

/-! ## String literals -/

/-- A stretch of a string literal: a byte of its content, or a code unit given by its number. -/
inductive Piece where
  | byte (b : UInt8)
  | unit (u : Nat)

/-- The value of a hexadecimal digit, in either case. -/
def hexDigit? (b : UInt8) : Option Nat :=
  if isDigit b then some (b.toNat - 0x30)
  else if 0x61 ≤ b && b ≤ 0x66 then some (b.toNat - 0x61 + 10)
  else if 0x41 ≤ b && b ≤ 0x46 then some (b.toNat - 0x41 + 10)
  else none

/-- The code unit that four hexadecimal digits give. -/
def codeUnit? (a b c d : UInt8) : Option Nat := do
  return (((← hexDigit? a) * 16 + (← hexDigit? b)) * 16 + (← hexDigit? c)) * 16 + (← hexDigit? d)

/-- The byte that a backslash and `b` stand for. -/
def shortEscape? (b : UInt8) : Option UInt8 :=
  if b = quote || b = backslash || b = 0x2f then some b
  else if b = 0x62 then some 0x08
  else if b = 0x66 then some 0x0c
  else if b = 0x6e then some 0x0a
  else if b = 0x72 then some 0x0d
  else if b = 0x74 then some 0x09
  else none

/-- The pieces up to the closing quote. -/
def readPieces : List UInt8 → Option (List Piece × List UInt8)
  | [] => none
  | b :: rest =>
      if b = quote then
        some ([], rest)
      else if b = backslash then
        match rest with
        | [] => none
        | e :: rest =>
            if e = 0x75 then
              match rest with
              | h₁ :: h₂ :: h₃ :: h₄ :: rest => do
                  let u ← codeUnit? h₁ h₂ h₃ h₄
                  let (ps, rest) ← readPieces rest
                  return (.unit u :: ps, rest)
              | _ => none
            else do
              let b ← shortEscape? e
              let (ps, rest) ← readPieces rest
              return (.byte b :: ps, rest)
      else if b < 0x20 then
        none
      else do
        let (ps, rest) ← readPieces rest
        return (.byte b :: ps, rest)

/-- The first half of a surrogate pair. -/
def isLeading (u : Nat) : Bool :=
  0xd800 ≤ u && u < 0xdc00

/-- The second half of a surrogate pair. -/
def isTrailing (u : Nat) : Bool :=
  0xdc00 ≤ u && u < 0xe000

/-- The UTF-8 spelling of a code point. Half of a surrogate pair gets three bytes, which occur in
no text. -/
def spell (n : Nat) : List UInt8 :=
  if n.isValidChar then
    String.utf8EncodeChar (Char.ofNat n)
  else
    [UInt8.ofNat (0xe0 + n / 0x1000), UInt8.ofNat (0x80 + n / 0x40 % 0x40),
      UInt8.ofNat (0x80 + n % 0x40)]

/-- The content of a string literal. The halves of a surrogate pair next to each other make one
character. -/
def joinPieces : List Piece → List UInt8
  | [] => []
  | .byte b :: ps => b :: joinPieces ps
  | [.unit u] => spell u
  | .unit u :: .byte b :: ps => spell u ++ b :: joinPieces ps
  | .unit u :: .unit v :: ps =>
      if isLeading u && isTrailing v then
        spell (0x10000 + (u - 0xd800) * 0x400 + (v - 0xdc00)) ++ joinPieces ps
      else
        spell u ++ joinPieces (.unit v :: ps)

/-- The content of a string literal whose opening quote is read. -/
def readString (bs : List UInt8) : Option (List UInt8 × List UInt8) := do
  let (ps, rest) ← readPieces bs
  return (joinPieces ps, rest)

/-! ## Numbers -/

/-- One digit or more. -/
def skipDigits (bs : List UInt8) : Option (List UInt8) :=
  match bs with
  | [] => none
  | b :: rest => if isDigit b then some (rest.dropWhile isDigit) else none

/-- The point and the digits behind it, if there is a point. -/
def skipFraction : List UInt8 → Option (List UInt8)
  | [] => some []
  | b :: rest => if b = 0x2e then skipDigits rest else some (b :: rest)

/-- A sign, if there is one. -/
def skipSign : List UInt8 → List UInt8
  | [] => []
  | b :: rest => if b = 0x2b || b = 0x2d then rest else b :: rest

/-- The exponent, if there is one. -/
def skipExponent : List UInt8 → Option (List UInt8)
  | [] => some []
  | b :: rest => if b = 0x65 || b = 0x45 then skipDigits (skipSign rest) else some (b :: rest)

/-- The digits before the point: a zero alone, or a run that does not start with one. -/
def readWhole : List UInt8 → Option (List UInt8 × List UInt8)
  | [] => none
  | b :: rest =>
      if b = 0x30 then some ([b], rest)
      else if isDigit b then some (b :: rest.takeWhile isDigit, rest.dropWhile isDigit)
      else none

/-- The number that digits give in base ten. -/
def digitsValue (ds : List UInt8) : Nat :=
  ds.foldl (fun n d => 10 * n + (d.toNat - 0x30)) 0

/-- A number whose sign is read; `literal` is all of it. -/
def readUnsigned (negative : Bool) (literal bs : List UInt8) : Option (Json × List UInt8) := do
  let (whole, rest) ← readWhole bs
  let tail ← skipExponent (← skipFraction rest)
  if tail.length = rest.length then
    return (.integer negative (digitsValue whole), rest)
  else
    return (.real (literal.take (literal.length - tail.length)), tail)

def readNumber : List UInt8 → Option (Json × List UInt8)
  | [] => none
  | b :: rest =>
      if b = 0x2d then readUnsigned true (b :: rest) rest
      else readUnsigned false (b :: rest) (b :: rest)

/-! ## Values -/

/-- What is left of `bs` behind the bytes of `word`. -/
def dropWord? (word : String) (bs : List UInt8) : Option (List UInt8) :=
  let w := Text.bytes word
  if w.isPrefixOf bs then some (bs.drop w.length) else none

/-- A value given by a word or a number. -/
def readScalar (bs : List UInt8) : Option (Json × List UInt8) :=
  match dropWord? "null" bs, dropWord? "true" bs, dropWord? "false" bs with
  | some rest, _, _ => some (.null, rest)
  | _, some rest, _ => some (.bool true, rest)
  | _, _, some rest => some (.bool false, rest)
  | none, none, none => readNumber bs

mutual

/-- A value, blanks in front of it allowed; `fuel` bounds the steps. -/
def readValue (fuel : Nat) (bs : List UInt8) : Option (Json × List UInt8) :=
  match fuel with
  | 0 => none
  | fuel + 1 =>
      match skipBlanks bs with
      | [] => none
      | b :: rest =>
          if b = quote then do
            let (content, rest) ← readString rest
            return (.string content, rest)
          else if b = 0x5b then
            match skipBlanks rest with
            | 0x5d :: rest => some (.array [], rest)
            | rest => do
                let (items, rest) ← readItems fuel rest
                return (.array items, rest)
          else if b = 0x7b then
            match skipBlanks rest with
            | 0x7d :: rest => some (.object [], rest)
            | rest => do
                let (members, rest) ← readMembers fuel rest
                return (.object members, rest)
          else
            readScalar (b :: rest)

/-- The items of an array, one at least, up to the closing bracket. -/
def readItems (fuel : Nat) (bs : List UInt8) : Option (List Json × List UInt8) :=
  match fuel with
  | 0 => none
  | fuel + 1 => do
      let (item, rest) ← readValue fuel bs
      match skipBlanks rest with
      | 0x5d :: rest => return ([item], rest)
      | 0x2c :: rest =>
          let (items, rest) ← readItems fuel rest
          return (item :: items, rest)
      | _ => none

/-- The members of an object, one at least, up to the closing brace. -/
def readMembers (fuel : Nat) (bs : List UInt8) :
    Option (List (List UInt8 × Json) × List UInt8) :=
  match fuel with
  | 0 => none
  | fuel + 1 =>
      match skipBlanks bs with
      | 0x22 :: rest => do
          let (key, rest) ← readString rest
          match skipBlanks rest with
          | 0x3a :: rest =>
              let (value, rest) ← readValue fuel rest
              match skipBlanks rest with
              | 0x7d :: rest => return ([(key, value)], rest)
              | 0x2c :: rest =>
                  let (members, rest) ← readMembers fuel rest
                  return ((key, value) :: members, rest)
              | _ => none
          | _ => none
      | _ => none

end

/-- The value of a JSON text. A step reads a byte or passes on to a value, so that twice the
number of bytes is enough of them. -/
def read? (bs : List UInt8) : Option Json :=
  match readValue (2 * bs.length + 1) bs with
  | some (value, rest) => if (skipBlanks rest).isEmpty then some value else none
  | none => none

end Interchain.Json
