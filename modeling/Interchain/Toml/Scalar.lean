import Interchain.Numeral
import Interchain.Toml.Basic

/-!
# Strings, numbers and dates of TOML

Readers for everything in a TOML document that is not made of other values. Each takes the
unread characters and returns what it read with the characters behind it.
-/

set_option autoImplicit false

namespace Interchain.Toml

/-! ## Strings -/

/-- The four kinds of strings. -/
structure StringStyle where
  quote : Char
  /-- Whether a backslash starts an escape. -/
  escapes : Bool
  /-- Whether the string may go over lines and ends with three quotes. -/
  multiline : Bool

/-- Where the reader of a string stands. -/
inductive StringState where
  | plain
  /-- Behind a backslash. -/
  | escape
  /-- In a code point, with `left` digits to come. -/
  | codePoint (left value : Nat)
  /-- Behind a backslash and blanks that have to lead to the end of the line. -/
  | foldedBlank
  /-- Behind a backslash at the end of a line, where blanks and lines are left out. -/
  | folded
  /-- Behind a carriage return, in the text or between left out lines. -/
  | carriage (folded : Bool)
  /-- Behind `count` quotes in a row. -/
  | quotes (count : Nat)
  | closed

/-- The characters that stand for themselves in strings and comments. -/
def isTextChar (c : Char) : Bool :=
  c = '\t' || (' ' ≤ c && c ≤ '~') || 0x80 ≤ c.toNat

def isBlank (c : Char) : Bool :=
  c = ' ' || c = '\t'

/-- The value of a hexadecimal digit, in either case. -/
def hexDigit? (c : Char) : Option Nat :=
  if c.isDigit then some (c.toNat - '0'.toNat)
  else if 'a' ≤ c && c ≤ 'f' then some (c.toNat - 'a'.toNat + 10)
  else if 'A' ≤ c && c ≤ 'F' then some (c.toNat - 'A'.toNat + 10)
  else none

/-- The character that a backslash and `c` stand for. -/
def shortEscape? (c : Char) : Option Char :=
  if c = '\x22' || c = '\\' then some c
  else if c = 'b' then some '\x08'
  else if c = 't' then some '\t'
  else if c = 'n' then some '\n'
  else if c = 'f' then some '\x0c'
  else if c = 'r' then some '\r'
  else none

/-- A character outside of escapes: what it adds to the text and where it leads. -/
def plainStep (style : StringStyle) (c : Char) : Option (List Char × StringState) :=
  if c = style.quote then some ([], if style.multiline then .quotes 1 else .closed)
  else if style.escapes && c = '\\' then some ([], .escape)
  else if style.multiline && c = '\n' then some ([c], .plain)
  else if style.multiline && c = '\r' then some ([], .carriage false)
  else if isTextChar c then some ([c], .plain)
  else none

/-- A character behind a backslash. -/
def escapeStep (style : StringStyle) (c : Char) : Option (List Char × StringState) :=
  if c = 'u' then some ([], .codePoint 4 0)
  else if c = 'U' then some ([], .codePoint 8 0)
  else if style.multiline && isBlank c then some ([], .foldedBlank)
  else if style.multiline && c = '\n' then some ([], .folded)
  else if style.multiline && c = '\r' then some ([], .carriage true)
  else (shortEscape? c).map fun x => ([x], .plain)

/-- A digit of a code point. -/
def codePointStep (left value : Nat) (c : Char) : Option (List Char × StringState) := do
  let value := 16 * value + (← hexDigit? c)
  if left ≤ 1 then
    if value.isValidChar then some ([Char.ofNat value], .plain) else none
  else
    some ([], .codePoint (left - 1) value)

/-- A character of a string. -/
def stringStep (style : StringStyle) (c : Char) :
    StringState → Option (List Char × StringState)
  | .plain => plainStep style c
  | .escape => escapeStep style c
  | .codePoint left value => codePointStep left value c
  | .foldedBlank =>
      if isBlank c then some ([], .foldedBlank)
      else if c = '\n' then some ([], .folded)
      else if c = '\r' then some ([], .carriage true)
      else none
  | .folded =>
      if isBlank c || c = '\n' then some ([], .folded)
      else if c = '\r' then some ([], .carriage true)
      else plainStep style c
  | .carriage folded =>
      if c = '\n' then some (if folded then ([], .folded) else ([c], .plain)) else none
  | .quotes count =>
      if c = style.quote then
        if count = 4 then some ([c, c], .closed) else some ([], .quotes (count + 1))
      else
        (plainStep style c).map fun (cs, next) => (List.replicate count style.quote ++ cs, next)
  | .closed => none

/-- The text of a string up to its closing quotes. Of four or five quotes in a row the last three
close the string. -/
def readStringFrom (style : StringStyle) :
    StringState → List Char → Option (List Char × List Char)
  | .closed, cs => some ([], cs)
  | .quotes count, [] =>
      if 3 ≤ count then some (List.replicate (count - 3) style.quote, []) else none
  | _, [] => none
  | state, c :: rest =>
      match state with
      | .quotes count =>
          if 3 ≤ count && c ≠ style.quote then
            some (List.replicate (count - 3) style.quote, c :: rest)
          else do
            let (cs, next) ← stringStep style c state
            let (more, rest) ← readStringFrom style next rest
            return (cs ++ more, rest)
      | state => do
          let (cs, next) ← stringStep style c state
          let (more, rest) ← readStringFrom style next rest
          return (cs ++ more, rest)

/-- The characters behind a line break that stands right here, if one does. -/
def dropLineBreak : List Char → List Char
  | '\n' :: rest => rest
  | '\r' :: '\n' :: rest => rest
  | cs => cs

/-- A string that is delimited by `quote`, three times where it may go over lines. -/
def readQuoted (quote : Char) (escapes : Bool) (cs : List Char) :
    Option (String × List Char) := do
  let triple := List.replicate 3 quote
  let (content, rest) ←
    if triple.isPrefixOf cs then
      readStringFrom ⟨quote, escapes, true⟩ .plain (dropLineBreak (cs.drop 3))
    else
      readStringFrom ⟨quote, escapes, false⟩ .plain (cs.drop 1)
  return (String.ofList content, rest)

/-! ## Numbers -/

/-- The digits behind the first one; single underscores between digits are left out. -/
def moreDigits (isDigit : Char → Bool) : List Char → List Char × List Char
  | '_' :: d :: rest =>
      if isDigit d then
        let (ds, rest) := moreDigits isDigit rest
        (d :: ds, rest)
      else
        ([], '_' :: d :: rest)
  | d :: rest =>
      if isDigit d then
        let (ds, rest) := moreDigits isDigit rest
        (d :: ds, rest)
      else
        ([], d :: rest)
  | [] => ([], [])

/-- A run of digits. -/
def readDigits (isDigit : Char → Bool) : List Char → Option (List Char × List Char)
  | [] => none
  | d :: rest =>
      if isDigit d then
        let (ds, rest) := moreDigits isDigit rest
        some (d :: ds, rest)
      else
        none

/-- A sign, if there is one: whether it is a minus. -/
def readSign : List Char → Bool × List Char
  | '-' :: rest => (true, rest)
  | '+' :: rest => (false, rest)
  | cs => (false, cs)

/-- A sign and digits that have no zero in front. -/
def readWhole (cs : List Char) : Option (Bool × List Char × List Char) :=
  let (negative, rest) := readSign cs
  match rest with
  | '0' :: rest => some (negative, ['0'], rest)
  | rest => (readDigits Char.isDigit rest).map fun (ds, rest) => (negative, ds, rest)

/-- The least and the greatest integer are those of sixty-four bits. -/
def isWord (n : Int) : Bool :=
  Int64.minValue.toInt ≤ n && n ≤ Int64.maxValue.toInt

/-- An integer in base `base`, behind its mark. -/
def readBased (base : Nat) (cs : List Char) : Option (Toml × List Char) := do
  let isDigit c := (hexDigit? c).any (· < base)
  let (ds, rest) ← readDigits isDigit cs
  let n := ds.foldl (fun n d => base * n + (hexDigit? d).getD 0) 0
  if isWord n then some (.integer n, rest) else none

def readInteger (cs : List Char) : Option (Toml × List Char) :=
  match cs with
  | '0' :: 'x' :: rest => readBased 16 rest
  | '0' :: 'o' :: rest => readBased 8 rest
  | '0' :: 'b' :: rest => readBased 2 rest
  | cs => do
      let (negative, ds, rest) ← readWhole cs
      let n : Int := if negative then -(Numeral.value ds : Int) else Numeral.value ds
      if isWord n then some (.integer n, rest) else none

/-- The point and the digits behind it. -/
def readFraction : List Char → Option (List Char × List Char)
  | '.' :: rest => readDigits Char.isDigit rest
  | _ => none

/-- The exponent. -/
def readExponent : List Char → Option (Int × List Char)
  | c :: rest =>
      if c = 'e' || c = 'E' then do
        let (negative, rest) := readSign rest
        let (ds, rest) ← readDigits Char.isDigit rest
        return (if negative then -(Numeral.value ds : Int) else Numeral.value ds, rest)
      else
        none
  | [] => none

/-- The least number that is rounded to no float of sixty-four bits: the greatest float and half
of its last place. -/
def floatLimit : Nat :=
  1 <<< 1024 - 1 <<< 970

/-- Whether a positive decimal number is beyond the floats of sixty-four bits. The limit has 309
digits, so only a number with as many digits before the point is compared with it. -/
def overflows (digits : List Char) (exponent : Int) : Bool :=
  let n := Numeral.value digits
  let width := exponent + (Nat.toDigits 10 n).length
  if n = 0 || width < 309 then false
  else if 309 < width then true
  else if exponent < 0 then floatLimit ≤ n / Numeral.tenPow exponent.natAbs
  else floatLimit ≤ n * Numeral.tenPow exponent.natAbs

/-- What is left of `cs` behind the characters of `word`. -/
def dropWord? (word : String) (cs : List Char) : Option (List Char) :=
  if word.toList.isPrefixOf cs then some (cs.drop word.length) else none

/-- Infinity, or what is no number, with a sign allowed. -/
def readSpecialFloat (cs : List Char) : Option (Toml × List Char) :=
  let (_, rest) := readSign cs
  (dropWord? "inf" rest <|> dropWord? "nan" rest).map fun tail =>
    (.float (String.ofList (cs.take (cs.length - tail.length))), tail)

/-- A number with a fraction or an exponent. -/
def readDecimalFloat (cs : List Char) : Option (Toml × List Char) := do
  let (negative, whole, rest) ← readWhole cs
  let (frac, tail) :=
    match readFraction rest with
    | some (ds, tail) => (some ds, tail)
    | none => (none, rest)
  let (exponent, tail) :=
    match readExponent tail with
    | some (e, tail) => (some e, tail)
    | none => (none, tail)
  if frac.isNone && exponent.isNone then
    none
  else
    let frac := frac.getD []
    if !negative && overflows (whole ++ frac) (exponent.getD 0 - frac.length) then
      none
    else
      some (.float (String.ofList (cs.take (cs.length - tail.length))), tail)

def readFloat (cs : List Char) : Option (Toml × List Char) :=
  readDecimalFloat cs <|> readSpecialFloat cs

/-! ## Dates and times -/

/-- A number of exactly `count` digits between `least` and `most`. -/
def readField (count least most : Nat) (cs : List Char) : Option (Nat × List Char) :=
  let ds := cs.take count
  let n := Numeral.value ds
  if ds.length = count && ds.all Char.isDigit && least ≤ n && n ≤ most then
    some (n, cs.drop count)
  else
    none

/-- What is left behind the character `c`. -/
def dropChar? (c : Char) : List Char → Option (List Char)
  | [] => none
  | d :: rest => if d = c then some rest else none

/-- The number of days of a month. -/
def daysOf (year month : Nat) : Nat :=
  if month = 2 then
    if year % 4 = 0 && (year % 100 ≠ 0 || year % 400 = 0) then 29 else 28
  else if month = 4 || month = 6 || month = 9 || month = 11 then 30
  else 31

/-- The characters behind a date. -/
def skipDate (cs : List Char) : Option (List Char) := do
  let (year, rest) ← readField 4 0 9999 cs
  let (month, rest) ← readField 2 1 12 (← dropChar? '-' rest)
  let (_, rest) ← readField 2 1 (daysOf year month) (← dropChar? '-' rest)
  return rest

/-- The characters behind a fraction of a second, if there is one. -/
def skipSecondFraction : List Char → List Char
  | '.' :: d :: rest => if d.isDigit then rest.dropWhile Char.isDigit else '.' :: d :: rest
  | cs => cs

/-- The characters behind a time of day. -/
def skipTime (cs : List Char) : Option (List Char) := do
  let (_, rest) ← readField 2 0 23 cs
  let (_, rest) ← readField 2 0 59 (← dropChar? ':' rest)
  let (_, rest) ← readField 2 0 60 (← dropChar? ':' rest)
  return skipSecondFraction rest

/-- The characters behind the offset of a time, if there is one. -/
def skipOffset : List Char → Option (List Char)
  | [] => some []
  | c :: rest =>
      if c = 'Z' || c = 'z' then
        some rest
      else if c = '+' || c = '-' then do
        let (_, rest) ← readField 2 0 23 rest
        let (_, rest) ← readField 2 0 59 (← dropChar? ':' rest)
        return rest
      else
        some (c :: rest)

/-- The characters behind the time that follows a date, if one does. -/
def skipTimeOfDate : List Char → Option (List Char)
  | [] => some []
  | c :: rest =>
      if c = 'T' || c = 't' || c = ' ' then
        match skipTime rest with
        | some tail => skipOffset tail
        | none => some (c :: rest)
      else
        some (c :: rest)

/-- A date, a date with a time, or a time. -/
def readDate (cs : List Char) : Option (Toml × List Char) := do
  let tail ←
    match skipDate cs with
    | some tail => skipTimeOfDate tail
    | none => skipTime cs
  return (.date (String.ofList (cs.take (cs.length - tail.length))), tail)

/-- A value that is no string and not made of other values. -/
def readScalar (cs : List Char) : Option (Toml × List Char) :=
  readDate cs <|> readFloat cs <|> readInteger cs
    <|> (dropWord? "true" cs).map (.bool true, ·)
    <|> (dropWord? "false" cs).map (.bool false, ·)

end Interchain.Toml
