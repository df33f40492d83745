/-!
# Sets of characters

A character class of the Unicode standard is an ascending list of ranges of code points. Each
class that the library needs has a module of its own; white space is small and stands here.
-/

set_option autoImplicit false

namespace Interchain.Text

/-- A set of characters as ranges of code points, ends included. -/
abbrev CharTable := List (Nat × Nat)

namespace CharTable

def contains (t : CharTable) (c : Char) : Bool :=
  t.any fun r => r.1 ≤ c.toNat && c.toNat ≤ r.2

/-- White space. -/
def blank : CharTable :=
  [(0x0009, 0x000d), (0x0020, 0x0020), (0x0085, 0x0085), (0x00a0, 0x00a0), (0x1680, 0x1680),
   (0x2000, 0x200a), (0x2028, 0x2029), (0x202f, 0x202f), (0x205f, 0x205f), (0x3000, 0x3000)]

end CharTable

/-- Nothing but white space. -/
def isBlank (s : String) : Bool :=
  s.toList.all CharTable.blank.contains

/-- The characters without the white space at both ends. -/
def trim (cs : List Char) : List Char :=
  ((cs.dropWhile CharTable.blank.contains).reverse.dropWhile CharTable.blank.contains).reverse

end Interchain.Text
