import Interchain.Text.Hex

/-!
# Writing TOML

How tables of plain values are written: a header, then a line for each key. Strings stand between
double quotes, where quotes, backslashes and controls are escaped and nothing else is. The literal
and the multi-line strings of TOML are not written.
-/

set_option autoImplicit false

namespace Interchain.Toml

/-- One character of a string between double quotes. -/
def escapeChar (c : Char) : List Char :=
  if c = '\x22' || c = '\\' then ['\\', c]
  else if c = '\x08' then ['\\', 'b']
  else if c = '\t' then ['\\', 't']
  else if c = '\n' then ['\\', 'n']
  else if c = '\x0c' then ['\\', 'f']
  else if c = '\r' then ['\\', 'r']
  else if c < ' ' || c = '\x7f' then
    ['\\', 'u'] ++ (Text.Hex.upper [UInt8.ofNat (c.toNat / 256), UInt8.ofNat c.toNat])
  else [c]

/-- A string between double quotes, whatever is in it. Writers that lay a document out for reading
may take a literal or a multi-line string for a text with quotes, backslashes or line ends. For such
a text this is another spelling of the same string and not the one they choose. -/
def printString (s : String) : List Char :=
  '\x22' :: s.toList.flatMap escapeChar ++ ['\x22']

def printBool (b : Bool) : List Char :=
  (if b then "true" else "false").toList

def printNat (n : Nat) : List Char :=
  Nat.toDigits 10 n

/-- An item of an array that has a line for each. -/
def printLine (s : String) : List Char :=
  "    ".toList ++ printString s ++ ",\n".toList

/-- An array of strings: on one line up to one item, else with a line for each. -/
def printStrings : List String → List Char
  | [] => "[]".toList
  | [s] => '[' :: printString s ++ [']']
  | ss => "[\n".toList ++ ss.flatMap printLine ++ [']']

/-- A header with a line for each key. -/
def printTable (header : String) (bindings : List (String × List Char)) : List Char :=
  header.toList ++ '\n' ::
    bindings.flatMap fun b => b.1.toList ++ " = ".toList ++ b.2 ++ ['\n']

end Interchain.Toml
