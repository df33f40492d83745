import Interchain.Text.CharTable.Extending
import Interchain.Text.CharTable.Inkless

/-!
# Quoted text

Messages quote a text so that a reader sees every character of it: double quotes around, a
backslash before quotes and backslashes, short escapes for the four most common controls, and
the code point in braces for every other character that would not show.
-/

set_option autoImplicit false

namespace Interchain.Text.Quoted

/-- The code point in lower-case hexadecimal, between braces. -/
def codePoint (c : Char) : List Char :=
  "\\u\x7b".toList ++ Nat.toDigits 16 c.toNat ++ ['\x7d']

/-- One character inside the quotes. -/
def encodeChar (c : Char) : List Char :=
  if c = '\x00' then ['\\', '0']
  else if c = '\t' then ['\\', 't']
  else if c = '\r' then ['\\', 'r']
  else if c = '\n' then ['\\', 'n']
  else if c = '"' || c = '\\' then ['\\', c]
  else if CharTable.extending.contains c then codePoint c
  else if c ≠ ' ' && CharTable.inkless.contains c then codePoint c
  else [c]

/-- A text between quotes. -/
def encode (s : String) : String :=
  String.ofList ('"' :: s.toList.flatMap encodeChar ++ ['"'])

end Interchain.Text.Quoted
