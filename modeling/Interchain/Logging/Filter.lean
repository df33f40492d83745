import Interchain.Logging.Level
import Interchain.Logging.Pattern.Basic
import Interchain.Text.Bytes

/-!
# Log filters

A filter is a list of directives between commas. A directive is a level alone, which is for
everything, or a target, a span between brackets, or both, with the level for them behind an
equals sign; where the level is missing everything is let through. Between braces a span may name
a field, and the field may ask for a value.

`LogFilter.maxLevel?` is the most verbose level that a filter can let through. A filter with a
malformed directive has none.
-/

set_option autoImplicit false

namespace Interchain.LogFilter

/-! ## Values of fields -/

/-- Whether the characters are an exponent: a numeral, which may have a sign. -/
def isExponent : List Char → Bool
  | '+' :: ds => Numeral.isNumeral ds
  | '-' :: ds => Numeral.isNumeral ds
  | ds => Numeral.isNumeral ds

/-- Whether the characters are the digits of a number, with a point among them or at an end and an
exponent behind them, both of which may be missing. -/
def isMeasure (cs : List Char) : Bool :=
  let significand := cs.takeWhile fun c => c ≠ 'e' && c ≠ 'E'
  let digits := significand.filter (· ≠ '.')
  significand.count '.' ≤ 1 && Numeral.isNumeral digits &&
    match cs.drop significand.length with
    | [] => true
    | _ :: exponent => isExponent exponent

/-- Whether the characters are a number without a sign. Infinity and what is not a number have
names, in any case. -/
def isNumber (cs : List Char) : Bool :=
  isMeasure cs || ["inf", "infinity", "nan"].contains (String.ofList (cs.map Char.toLower))

/-- A field may ask for a number or for a text that a pattern matches. A number is a pattern too,
unless a plus is in front of it. -/
def isValue : List Char → Bool
  | '+' :: cs => isNumber cs
  | cs => isPattern cs

/-! ## Directives -/

/-- What a directive sets. -/
structure Directive where
  level : LogLevel
  /-- Whether it asks for the value of a field. -/
  asksValue : Bool

/-- The characters that levels and targets start with. -/
def isOpening (c : Char) : Bool :=
  Text.CharTable.alphanumeric.contains c || c = '-' || c = ':' || c = '_'

/-- The level that starts at byte `k`. A missing one lets everything through. -/
def levelAt? (item : List Char) (k : Nat) : Option LogLevel := do
  match ← Text.dropBytes? k item with
  | [] => some .trace
  | cs => LogLevel.parse? cs

/-- The level behind a span that ends before byte `k`, where `rest` is left. -/
def levelBehind? (item : List Char) (k : Nat) : List Char → Option LogLevel
  | [] => some .trace
  | '=' :: _ => levelAt? item (k + 1)
  | _ => none

/-- Whether a field asks for a value; it needs a name or a value at least. -/
def field? (cs : List Char) : Option Bool :=
  match cs, cs.dropWhile (· ≠ '=') with
  | [], _ => none
  | _, [] => some false
  | _, _ :: rest => if isValue (rest.takeWhile (· ≠ '=')) then some true else none

/-- The span whose text starts at byte `k`, where `rest` is left, with the level behind it. -/
def span? (item : List Char) (k : Nat) (rest : List Char) : Option Directive :=
  let name := rest.takeWhile fun c => c ≠ ']' && c ≠ '\x7b'
  let k := k + Text.byteLength name + 1
  match rest.drop name.length with
  | ']' :: rest => do
      return ⟨← levelBehind? item k rest, false⟩
  | '\x7b' :: rest =>
      let field := rest.takeWhile (· ≠ '\x7d')
      match rest.drop field.length with
      | '\x7d' :: ']' :: rest => do
          let field ← Text.takeBytes? (Text.byteLength field) (← Text.dropBytes? k item)
          let asksValue ← field? field
          return ⟨← levelBehind? item (k + Text.byteLength field + 2) rest, asksValue⟩
      | _ => none
  | _ => none

/-- The directive that an item of the list gives. Its parts are found in the item without the
white space at both ends, but the texts at their positions, which count bytes, are those of the
whole item: white space in front leaves a bare level unknown, so that it is a target, and a level
behind an equals sign malformed. -/
def directive? (item : List Char) : Option Directive :=
  let inner := Text.trim item
  let head := inner.takeWhile fun c => c ≠ '=' && c ≠ '['
  let k := Text.byteLength head + 1
  match inner with
  | [] => none
  | c :: rest =>
      if c = '[' then
        span? item 1 rest
      else if !isOpening c then
        none
      else
        match inner.drop head.length with
        | [] => some ⟨(LogLevel.parse? item).getD .trace, false⟩
        | '[' :: rest => span? item k rest
        | _ => do
            return ⟨← levelAt? item k, false⟩

/-! ## Filters -/

/-- The most verbose level that a list of directives can let through; empty items are left out.
A value is known only when it is recorded, so asking for one lets everything through. -/
def maxLevel? (s : String) : Option LogLevel := do
  let directives ← ((s.toList.splitOn ',').filter (!·.isEmpty)).mapM directive?
  if directives.any Directive.asksValue then
    return .trace
  else
    return directives.foldl (fun l d => l.max d.level) .off

end Interchain.LogFilter
