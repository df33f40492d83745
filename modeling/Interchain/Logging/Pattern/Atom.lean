import Interchain.Logging.Pattern.Mode

/-!
# Atoms of a pattern

The smallest parts of a pattern: characters, classes with a letter, and places. A backslash takes
the meaning from a sign and gives one to some letters; `\x`, `\u` and `\U` are followed by the two,
four or eight hexadecimal digits of a character.
-/

set_option autoImplicit false

namespace Interchain.Pattern

inductive Atom where
  /-- A character. `byte` says whether it is written as the value of one byte. -/
  | literal (c : Char) (byte : Bool)
  /-- Any character of a line. -/
  | wildcard
  /-- The digits, the blanks or the characters of words, or all but these. -/
  | letterClass (complement : Bool)
  /-- The start or the end of the text or of a line. -/
  | border
  /-- A place where a word starts or ends, or none does. -/
  | wordBorder

namespace Atom

/-! ## Escapes -/

/-- The value of a hexadecimal digit. -/
def hexValue? (c : Char) : Option Nat :=
  if c.isDigit then some (c.toNat - '0'.toNat)
  else if 'a' ≤ c && c ≤ 'f' then some (c.toNat - 'a'.toNat + 10)
  else if 'A' ≤ c && c ≤ 'F' then some (c.toNat - 'A'.toNat + 10)
  else none

/-- The number that the next `n` hexadecimal digits continue from `value`, and the rest. -/
def hexNumber? (m : Mode) : Nat → Nat → List Char → Option (Nat × List Char)
  | 0, value, cs => some (value, cs)
  | n + 1, value, cs =>
      match m.skip cs with
      | [] => none
      | c :: rest => do
          let digit ← hexValue? c
          hexNumber? m n (value * 16 + digit) rest

/-- A character by its code point in `n` hexadecimal digits, and the rest. -/
def hexLiteral? (m : Mode) (n : Nat) (cs : List Char) : Option (Atom × List Char) := do
  let (value, rest) ← hexNumber? m n 0 cs
  if value.isValidChar then
    return (.literal (Char.ofNat value) (n = 2), rest)
  else
    none

/-- The ASCII characters that a backslash in front leaves as they are: all but letters, digits
and the signs of the two ends of a word. -/
def isSign (c : Char) : Bool :=
  c.toNat < 0x80 && !c.isAlphanum && c ≠ '<' && c ≠ '>'

/-- What the character behind a backslash means, where it stands for itself or for one atom. -/
def ofEscape? (c : Char) : Option Atom :=
  if isSign c then some (.literal c false)
  else if c = 'a' then some (.literal '\x07' false)
  else if c = 'f' then some (.literal '\x0c' false)
  else if c = 't' then some (.literal '\t' false)
  else if c = 'n' then some (.literal '\n' false)
  else if c = 'r' then some (.literal '\r' false)
  else if c = 'v' then some (.literal '\x0b' false)
  else if c = 'A' || c = 'z' then some .border
  else if c = 'b' || c = 'B' || c = '<' || c = '>' then some .wordBorder
  else if c = 'd' || c = 's' || c = 'w' then some (.letterClass false)
  else if c = 'D' || c = 'S' || c = 'W' then some (.letterClass true)
  else none

/-- The atom behind a backslash, and the rest. -/
def escape? (m : Mode) : List Char → Option (Atom × List Char)
  | [] => none
  | 'x' :: cs => hexLiteral? m 2 cs
  | 'u' :: cs => hexLiteral? m 4 cs
  | 'U' :: cs => hexLiteral? m 8 cs
  | c :: cs => (ofEscape? c).map (·, cs)

/-! ## Where an atom may stand -/

/-- Whether the character `c` is at most one byte. -/
def isShort (c : Char) : Bool :=
  c.toNat < 0x80

/-- Whether a pattern may have the atom outside of brackets. A byte that is no character on its
own could split one, and so could the wildcard and a complement where bytes are meant. -/
def isAllowed (m : Mode) : Atom → Bool
  | .literal c byte => if m.characters then !m.eitherCase else isShort c || !byte
  | .wildcard => m.characters
  | .letterClass complement => !m.characters && !complement
  | .border => true
  | .wordBorder => !m.characters

/-- Whether a class in brackets may have the atom as a member. Where bytes are meant all members
are ASCII. -/
def isMember (m : Mode) : Atom → Bool
  | .literal c _ => if m.characters then !m.eitherCase else isShort c
  | .letterClass complement => !m.characters && !complement
  | _ => false

/-- Whether a class may have all characters from the first atom to the second one. -/
def isRange (m : Mode) (first last : Atom) : Bool :=
  match first, last with
  | .literal c _, .literal d _ => first.isMember m && last.isMember m && c ≤ d
  | _, _ => false

end Atom

end Interchain.Pattern
