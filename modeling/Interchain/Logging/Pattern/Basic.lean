import Interchain.Logging.Pattern.Bracket
import Interchain.Text.CharTable.Alphanumeric
import Interchain.Text.CharTable.Numeric

/-!
# Patterns

A pattern is a regular expression: alternatives between bars, each a row of atoms, classes in
brackets and groups in parentheses, any of which may be repeated. A question mark behind an opening
parenthesis gives the group a name or switches a mode for it; without a colon the mode is switched
for what follows in the same group.

`isPattern` says which texts are patterns of at most the greatest height.
-/

set_option autoImplicit false

namespace Interchain.Pattern

/-! ## Rows and groups -/

/-- A part of a row. -/
structure Part where
  height : Nat
  /-- Whether the part stands for anything that could be repeated, which a switch does not. -/
  repeatable : Bool := true

/-- A group whose closing parenthesis is still to come. -/
structure OpenGroup where
  /-- The heights of the alternatives that were read. -/
  alternatives : List Nat := []
  /-- The parts behind the last bar, the last one first. -/
  parts : List Part := []
  /-- The mode behind the group. -/
  outer : Mode := {}

namespace OpenGroup

def push (g : OpenGroup) (part : Part) : OpenGroup :=
  { g with parts := part :: g.parts }

/-- The group behind a bar. -/
def alternated (g : OpenGroup) : OpenGroup :=
  { g with
    alternatives := joinHeights (g.parts.map Part.height) :: g.alternatives
    parts := [] }

/-- The height of what is in the group. -/
def height (g : OpenGroup) : Nat :=
  joinHeights g.alternated.alternatives

/-- The group with the last part repeated. -/
def repeated? (g : OpenGroup) : Option OpenGroup :=
  match g.parts with
  | [] => none
  | part :: parts =>
      if part.repeatable then some { g with parts := ⟨part.height + 1, true⟩ :: parts } else none

end OpenGroup

/-- What was read of a pattern. -/
structure Progress where
  mode : Mode := {}
  /-- The names of groups. -/
  names : List (List Char) := []
  /-- The innermost group; the whole pattern counts as one. -/
  group : OpenGroup := {}
  /-- The groups around it, the innermost first. -/
  outer : List OpenGroup := []

namespace Progress

def push (p : Progress) (height : Nat) : Progress :=
  { p with group := p.group.push ⟨height, true⟩ }

/-- Inside a new group with the mode `m`. -/
def opened (p : Progress) (m : Mode) : Progress :=
  { p with
    mode := m
    group := { outer := p.mode }
    outer := p.group :: p.outer }

/-- Behind the innermost group. -/
def closed? (p : Progress) : Option Progress :=
  match p.outer with
  | [] => none
  | g :: outer =>
      some { p with
        mode := p.group.outer
        group := g.push ⟨p.group.height + 1, true⟩
        outer := outer }

/-- Behind the switches `cs`. -/
def switched (p : Progress) (cs : List Char) : Progress :=
  { p with
    mode := p.mode.switched cs
    group := p.group.push ⟨0, false⟩ }

/-- Whether the pattern may end here. -/
def isComplete (p : Progress) : Bool :=
  p.outer.isEmpty && p.group.height ≤ maxHeight

end Progress

/-! ## Openings of groups -/

/-- Whether the characters are a name: a letter or an underscore, then letters, digits,
underscores, dots and brackets. -/
def isName : List Char → Bool
  | [] => false
  | c :: cs =>
      (c = '_' || Text.CharTable.alphanumeric.contains c && !Text.CharTable.numeric.contains c) &&
        cs.all fun c =>
          c = '_' || c = '.' || c = '[' || c = ']' || Text.CharTable.alphanumeric.contains c

/-- Behind an opening parenthesis, a question mark and a less-than sign: the name of a group, which
no other group has, up to a greater-than sign. -/
def named? (p : Progress) (cs : List Char) : Option (Progress × List Char) :=
  let name := cs.takeWhile (· ≠ '>')
  match cs.drop name.length with
  | [] => none
  | _ :: rest =>
      if isName name && !p.names.contains name then
        some ({ p.opened p.mode with names := name :: p.names }, rest)
      else
        none

/-- Behind an opening parenthesis and a question mark: switches, with a colon for a group of their
own; a switch that is alone has letters. -/
def switching? (p : Progress) (cs : List Char) : Option (Progress × List Char) :=
  let letters := cs.takeWhile fun c => c ≠ ':' && c ≠ ')'
  if !Mode.isSwitching letters then
    none
  else
    match cs.drop letters.length with
    | ':' :: rest => some (p.opened (p.mode.switched letters), rest)
    | ')' :: rest => if letters.isEmpty then none else some (p.switched letters, rest)
    | _ => none

/-- Behind an opening parenthesis. -/
def opening? (p : Progress) (cs : List Char) : Option (Progress × List Char) :=
  match p.mode.skip cs with
  | '?' :: 'P' :: '<' :: cs => named? p cs
  | '?' :: '<' :: cs => named? p cs
  | '?' :: cs => switching? p cs
  | cs => some (p.opened p.mode, cs)

/-! ## Whole patterns -/

/-- An atom, with the rest behind it, as a part of the innermost group. -/
def placed? (p : Progress) (atom : Atom) (cs : List Char) : Option (Progress × List Char) :=
  if atom.isAllowed p.mode then some (p.push 0, cs) else none

/-- The progress with the part that starts with the character `c`, and the rest. A repetition may
be followed by a question mark, with which it is as short as possible. Counts of repetitions stand
between braces, but a pattern is given between braces itself and ends at the first closing one, so
an opening one is never closed. -/
def part? (p : Progress) (c : Char) (cs : List Char) : Option (Progress × List Char) :=
  if c = '(' then opening? p cs
  else if c = ')' then p.closed?.map (·, cs)
  else if c = '|' then some ({ p with group := p.group.alternated }, cs)
  else if c = '[' then do
    let (height, rest) ← bracketRest? p.mode cs
    return (p.push height, rest)
  else if c = '?' || c = '*' || c = '+' then do
    let group ← p.group.repeated?
    return ({ p with group := group }, if cs.head? = some '?' then cs.drop 1 else cs)
  else if c = '\x7b' then none
  else if c = '\\' then do
    let (atom, rest) ← Atom.escape? p.mode cs
    placed? p atom rest
  else if c = '.' then placed? p .wildcard cs
  else if c = '^' || c = '$' then placed? p .border cs
  else placed? p (.literal c false) cs

/-- Whether the characters complete the pattern; each part takes at least one of them. -/
def completes : Nat → Progress → List Char → Bool
  | 0, _, _ => false
  | fuel + 1, p, cs =>
      match p.mode.skip cs with
      | [] => p.isComplete
      | c :: cs =>
          match part? p c cs with
          | none => false
          | some (p, rest) => completes fuel p rest

end Pattern

/-- Whether the characters are a well-formed pattern that the matcher can hold. -/
def isPattern (cs : List Char) : Bool :=
  Pattern.completes (cs.length + 1) {} cs

end Interchain
