import Interchain.Logging.Pattern.Atom
import Interchain.Logging.Pattern.Height

/-!
# Classes in brackets

A class between brackets has characters, ranges of characters, classes with a letter or a name and
other classes in brackets as its members; behind `&&`, `--` or `~~` more members follow, for the
intersection or a difference with those before. A caret in front complements a class. Minus signs
in front, and a closing bracket as the very first character, are members.
-/

set_option autoImplicit false

namespace Interchain.Pattern

/-- A class whose closing bracket is still to come. -/
structure OpenClass where
  /-- Whether no member but minus signs was read yet, nor an operator. -/
  fresh : Bool := true
  /-- The height of the operands that were read, if an operator was. -/
  left : Option Nat := none
  /-- The heights of the members behind the last operator. -/
  members : List Nat := []

namespace OpenClass

def push (k : OpenClass) (height : Nat) : OpenClass :=
  { k with fresh := false, members := height :: k.members }

/-- The height of what is between the brackets. -/
def height (k : OpenClass) : Nat :=
  match k.left with
  | none => joinHeights k.members
  | some h => joinHeights [h, joinHeights k.members]

/-- The class behind an operator. -/
def operated (k : OpenClass) : OpenClass where
  fresh := false
  left := some k.height

end OpenClass

/-! ## Members -/

/-- The names of classes. -/
def classNames : List String :=
  ["alnum", "alpha", "ascii", "blank", "cntrl", "digit", "graph", "lower", "print", "punct",
    "space", "upper", "word", "xdigit"]

/-- Whether the class with a name, which is between colons and brackets, is complemented, and the
rest behind it. -/
def namedClass? : List Char → Option (Bool × List Char)
  | ':' :: cs =>
      let complement := cs.head? = some '^'
      let cs := if complement then cs.drop 1 else cs
      let name := cs.takeWhile (· ≠ ':')
      match cs.drop name.length with
      | ':' :: ']' :: rest =>
          if classNames.contains (String.ofList name) then some (complement, rest) else none
      | _ => none
  | _ => none

/-- Whether a class may have the class with a name as a member. -/
def isNamedMember (m : Mode) (complement : Bool) : Bool :=
  if m.characters then !m.eitherCase else !complement

/-- The atom that starts with the character `c` inside brackets, and the rest. -/
def member? (m : Mode) (c : Char) (cs : List Char) : Option (Atom × List Char) :=
  if c = '\\' then Atom.escape? m cs else some (.literal c false, cs)

/-- The rest behind a member that starts with the character `c`: an atom, or a range where a minus
follows that is neither the last character nor one of two. -/
def memberRest? (m : Mode) (c : Char) (cs : List Char) : Option (List Char) := do
  let (first, cs) ← member? m c cs
  match m.skip cs with
  | '-' :: cs =>
      if m.peek? cs = some ']' || m.peek? cs = some '-' then
        if first.isMember m then some ('-' :: cs) else none
      else
        match m.skip cs with
        | [] => none
        | d :: cs => do
            let (last, cs) ← member? m d cs
            if first.isRange m last then some cs else none
  | cs => if first.isMember m then some cs else none

/-! ## Brackets -/

/-- The rest behind an opening bracket and the caret that may follow it. A complement has
characters beyond ASCII. -/
def openingRest? (m : Mode) (cs : List Char) : Option (List Char) :=
  match m.skip cs with
  | '^' :: rest => if m.characters then some rest else none
  | cs => some cs

/-- The height of the outermost class and the rest behind it, from inside the class `k`. The classes
around it, the innermost first, are still to be closed too. -/
def classRest? (m : Mode) : Nat → OpenClass → List OpenClass → List Char →
    Option (Nat × List Char)
  | 0, _, _, _ => none
  | fuel + 1, k, outer, cs =>
      match m.skip cs with
      | [] => none
      | c :: cs =>
          if c = '-' && k.fresh then
            if (Atom.literal c false).isMember m then
              classRest? m fuel { k.push 0 with fresh := true } outer cs
            else
              none
          else if c = ']' && !(k.fresh && k.members.isEmpty) then
            match outer with
            | [] => some (k.height + 1, cs)
            | k' :: outer => classRest? m fuel (k'.push (k.height + 1)) outer cs
          else if c = '[' then
            match namedClass? cs with
            | some (complement, cs) =>
                if isNamedMember m complement then classRest? m fuel (k.push 0) outer cs else none
            | none => do
                let cs ← openingRest? m cs
                classRest? m fuel {} (k :: outer) cs
          else if (c = '&' || c = '-' || c = '~') && cs.head? = some c then
            classRest? m fuel k.operated outer (cs.drop 1)
          else do
            let cs ←
              if c = ']' then
                if (Atom.literal c false).isMember m then some cs else none
              else
                memberRest? m c cs
            classRest? m fuel (k.push 0) outer cs

/-- The height of the class whose opening bracket was read, and the rest behind it. -/
def bracketRest? (m : Mode) (cs : List Char) : Option (Nat × List Char) := do
  let cs ← openingRest? m cs
  classRest? m (cs.length + 1) {} [] cs

end Interchain.Pattern
