import Interchain.Text.CharTable.Basic

/-!
# Modes of a pattern

What a part of a pattern means depends on switches that the pattern itself sets, for the rest of
the group they stand in or for a group of their own. Three of them decide which patterns are well
formed; the others are read and have no say in it.

The matcher has no data about characters beyond ASCII. It knows the two cases of a letter, and
what a letter, a digit or a blank is, only where bytes are meant, and there it takes care that a
match is made of whole characters.
-/

set_option autoImplicit false

namespace Interchain.Pattern

/-- The switches that are in force at a place of a pattern. -/
structure Mode where
  /-- Characters are meant, and not bytes. -/
  characters : Bool := true
  /-- A letter stands for both of its cases. -/
  eitherCase : Bool := false
  /-- Blanks and comments between the parts are left out. -/
  spaced : Bool := false

namespace Mode

/-! ## Switches -/

/-- The letters of the switches. -/
def letters : List Char :=
  ['i', 'm', 's', 'U', 'u', 'R', 'x']

/-- Whether the characters are letters of switches to turn on, and behind a minus, of which there
is one at most and not as the last, of those to turn off; none is named twice. -/
def isSwitching (cs : List Char) : Bool :=
  cs.all (fun c => c = '-' || letters.contains c) &&
    cs.all (fun c => cs.count c = 1) && cs.getLast? ≠ some '-'

/-- The state of the switch `letter` behind the characters `cs`, when it was `state`. -/
def switch (cs : List Char) (letter : Char) (state : Bool) : Bool :=
  if cs.contains letter then (cs.takeWhile (· ≠ '-')).contains letter else state

/-- The mode behind the characters `cs`. -/
def switched (m : Mode) (cs : List Char) : Mode where
  characters := switch cs 'u' m.characters
  eitherCase := switch cs 'i' m.eitherCase
  spaced := switch cs 'x' m.spaced

/-! ## Blanks -/

/-- The characters behind blanks and comments; a comment goes from a number sign to the end of
the line. `inComment` says whether a comment is open. -/
def dropSpace (inComment : Bool) : List Char → List Char
  | [] => []
  | c :: cs =>
      if inComment then dropSpace (c ≠ '\n') cs
      else if Text.CharTable.blank.contains c then dropSpace false cs
      else if c = '#' then dropSpace true cs
      else c :: cs

/-- The characters from the next part on. -/
def skip (m : Mode) (cs : List Char) : List Char :=
  if m.spaced then dropSpace false cs else cs

/-- The character that counts as the next one for a minus inside a class. Blanks are left out, and
one number sign, but not the comment behind it. -/
def peek? (m : Mode) (cs : List Char) : Option Char :=
  if m.spaced then
    match cs.dropWhile Text.CharTable.blank.contains with
    | '#' :: rest => (rest.dropWhile Text.CharTable.blank.contains).head?
    | rest => rest.head?
  else
    cs.head?

end Mode

end Interchain.Pattern
