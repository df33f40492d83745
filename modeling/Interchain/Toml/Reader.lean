import Interchain.Toml.Scalar

/-!
# Reading TOML documents

A document of TOML 1.0 is a list of sections: keys with values before the first header, and the
keys under each header. Reading collects the sections; the tables are then put together from
them, and a table or key that is given twice makes the document unreadable. Values nest, and keys
go down, less than eighty levels.
-/

set_option autoImplicit false

namespace Interchain.Toml

/-! ## Tables under construction -/

/-- What stands under a key while a document is put together. -/
inductive Node where
  /-- A value, which nothing can be added to. -/
  | value (v : Toml)
  /-- A table. An implicit one has no header of its own; a dotted one comes from a key with
  dots. -/
  | table (implicit dotted : Bool) (members : List (String × Node))
  /-- The tables of an array, those before the last one and the last one. -/
  | tables (earlier : List (List (String × Node))) (last : List (String × Node))

/-- The members of a table under construction. -/
abbrev Members := List (String × Node)

/-- The members with the node under `key` set. -/
def Members.set (key : String) (node : Node) : Members → Members
  | [] => [(key, node)]
  | m :: ms => if m.1 = key then (key, node) :: ms else m :: Members.set key node ms

/-- The members of `ms` with the table at `path` changed by `change`, which is told whether the
table comes from a key with dots. Tables that are missing on the way are made. `dotted` says
whether the way is that of a key with dots: such a key may not go through a table that has a
header of its own. -/
def descend (dotted : Bool) (change : Bool → Members → Option Members) :
    List String → Bool → Members → Option Members
  | [], here, ms => change here ms
  | key :: path, _, ms =>
      match ms.lookup key with
      | none => do
          let sub ← descend dotted change path dotted []
          return ms.set key (.table true dotted sub)
      | some (.value _) => none
      | some (.table implicit here sub) =>
          if dotted && !implicit then
            none
          else do
            let sub ← descend dotted change path here sub
            return ms.set key (.table implicit here sub)
      | some (.tables earlier last) => do
          let last ← descend dotted change path false last
          return ms.set key (.tables earlier last)

/-- A key with its value: the tables that the key goes through, its last part, and the value. -/
structure Binding where
  path : List String
  key : String
  value : Toml

/-- The members with a binding added. -/
def addBinding (ms : Members) (b : Binding) : Option Members :=
  descend true
    (fun dotted ms =>
      -- a key with dots only adds to tables of such keys, one without only to all others
      if dotted == b.path.isEmpty || (ms.lookup b.key).isSome then none
      else some (ms.set b.key (.value b.value)))
    b.path false ms

/-- The members with all bindings added. -/
def addBindings (bs : List Binding) (ms : Members) : Option Members :=
  bs.foldlM addBinding ms

/-- A header with the bindings under it. -/
structure Section where
  /-- Whether the header adds a table to an array. -/
  isArray : Bool
  path : List String
  key : String
  bindings : List Binding

/-- The members of the root with a section added. A header may name a table that so far is only
implied by other headers. -/
def addSection (ms : Members) (s : Section) : Option Members :=
  descend false
    (fun _ ms =>
      if s.isArray then
        match ms.lookup s.key with
        | none => do
            return ms.set s.key (.tables [] (← addBindings s.bindings []))
        | some (.tables earlier last) => do
            return ms.set s.key (.tables (earlier ++ [last]) (← addBindings s.bindings []))
        | some _ => none
      else
        match ms.lookup s.key with
        | none => do
            return ms.set s.key (.table false false (← addBindings s.bindings []))
        | some (.table true false sub) => do
            return ms.set s.key (.table false false (← addBindings s.bindings sub))
        | some _ => none)
    s.path false ms

mutual

/-- The value that a node stands for. -/
def Node.toToml : Node → Toml
  | .value v => v
  | .table _ _ ms => .table (finish ms)
  | .tables earlier last => .array (finishAll earlier ++ [.table (finish last)])

/-- The members of a finished table. -/
def finish : List (String × Node) → List (String × Toml)
  | [] => []
  | m :: ms => (m.1, m.2.toToml) :: finish ms

/-- The finished tables of an array. -/
def finishAll : List (List (String × Node)) → List Toml
  | [] => []
  | ms :: mss => .table (finish ms) :: finishAll mss

end

/-! ## Keys and values -/

def skipBlanks (cs : List Char) : List Char :=
  cs.dropWhile isBlank

/-- Blanks, line breaks and comments; `comment` says whether a comment is open. -/
def skipFiller (comment : Bool) : List Char → List Char
  | [] => []
  | '\n' :: rest => skipFiller false rest
  | '\r' :: '\n' :: rest => skipFiller false rest
  | c :: rest =>
      if comment then
        if isTextChar c then skipFiller true rest else c :: rest
      else if isBlank c then skipFiller false rest
      else if c = '#' then skipFiller true rest
      else c :: rest

def isBareKeyChar (c : Char) : Bool :=
  c.isAlphanum || c = '-' || c = '_'

/-- One part of a key, bare or quoted. -/
def readKeyPart : List Char → Option (String × List Char)
  | [] => none
  | c :: rest =>
      if c = '\x22' then readStringPart ⟨c, true, false⟩ rest
      else if c = '\x27' then readStringPart ⟨c, false, false⟩ rest
      else if isBareKeyChar c then
        some (String.ofList (c :: rest.takeWhile isBareKeyChar), rest.dropWhile isBareKeyChar)
      else none
where
  readStringPart (style : StringStyle) (cs : List Char) : Option (String × List Char) := do
    let (content, rest) ← readStringFrom style .plain cs
    return (String.ofList content, rest)

/-- The parts of a key, with blanks allowed around each. -/
def readKeyParts (fuel : Nat) (cs : List Char) : Option (List String × List Char) :=
  match fuel with
  | 0 => none
  | fuel + 1 => do
      let (part, rest) ← readKeyPart (skipBlanks cs)
      match skipBlanks rest with
      | '.' :: rest =>
          let (parts, rest) ← readKeyParts fuel rest
          return (part :: parts, rest)
      | rest => return ([part], rest)

/-- The number of levels that values nest and keys go down. -/
def levelLimit : Nat := 79

/-- A key: the parts it goes through, and its last one. -/
def readKey (cs : List Char) : Option ((List String × String) × List Char) := do
  let (parts, rest) ← readKeyParts levelLimit cs
  return ((parts.dropLast, ← parts.getLast?), rest)

mutual

/-- A value; `levels` is how deep it may nest, and `fuel` bounds the steps. -/
def readValue (fuel levels : Nat) (cs : List Char) : Option (Toml × List Char) :=
  match fuel, cs with
  | 0, _ => none
  | _, [] => none
  | fuel + 1, c :: rest =>
      if c = '\x22' then do
        let (s, rest) ← readQuoted c true (c :: rest)
        return (.text s, rest)
      else if c = '\x27' then do
        let (s, rest) ← readQuoted c false (c :: rest)
        return (.text s, rest)
      else if c = '[' then
        match levels, skipFiller false rest with
        | 0, _ => none
        | _, ']' :: rest => some (.array [], rest)
        | levels + 1, rest => do
            let (items, rest) ← readItems fuel levels rest
            return (.array items, rest)
      else if c = '\x7b' then
        match levels, skipBlanks rest with
        | 0, _ => none
        | _, '\x7d' :: rest => some (.table [], rest)
        | levels + 1, rest => do
            let (bindings, rest) ← readBindings fuel levels rest
            return (.table (finish (← addBindings bindings [])), rest)
      else
        readScalar (c :: rest)

/-- The items of an array, one at least, up to the closing bracket. A comma may stand behind the
last one. -/
def readItems (fuel levels : Nat) (cs : List Char) : Option (List Toml × List Char) :=
  match fuel with
  | 0 => none
  | fuel + 1 => do
      let (item, rest) ← readValue fuel levels cs
      match skipFiller false rest with
      | ']' :: rest => return ([item], rest)
      | ',' :: rest =>
          match skipFiller false rest with
          | ']' :: rest => return ([item], rest)
          | rest =>
              let (items, rest) ← readItems fuel levels rest
              return (item :: items, rest)
      | _ => none

/-- The bindings of an inline table, one at least, up to the closing brace. -/
def readBindings (fuel levels : Nat) (cs : List Char) : Option (List Binding × List Char) :=
  match fuel with
  | 0 => none
  | fuel + 1 => do
      let ((path, key), rest) ← readKey cs
      let (value, rest) ← readValue fuel levels (skipBlanks (← dropChar? '=' rest))
      match skipBlanks rest with
      | '\x7d' :: rest => return ([⟨path, key, value⟩], rest)
      | ',' :: rest =>
          let (bindings, rest) ← readBindings fuel levels rest
          return (⟨path, key, value⟩ :: bindings, rest)
      | _ => none

end

/-! ## Lines -/

/-- Blanks and a comment up to the end of the line, or of the document. -/
def skipLineEnd (cs : List Char) : Option (List Char) :=
  let rest :=
    match skipBlanks cs with
    | '#' :: rest => rest.dropWhile isTextChar
    | rest => rest
  match rest with
  | [] => some []
  | '\n' :: rest => some rest
  | '\r' :: '\n' :: rest => some rest
  | _ => none

/-- A key with its value, and the end of the line. -/
def readBinding (cs : List Char) : Option (Binding × List Char) := do
  let ((path, key), rest) ← readKey cs
  let rest := skipBlanks (← dropChar? '=' rest)
  let (value, rest) ← readValue (2 * rest.length + 1) levelLimit rest
  return (⟨path, key, value⟩, ← skipLineEnd rest)

/-- A header behind its first bracket, and the end of the line; the bindings are not read. -/
def readHeader (cs : List Char) : Option (Section × List Char) :=
  match cs with
  | '[' :: cs => do
      let ((path, key), rest) ← readKey cs
      let rest ← dropWord? "]]" rest
      return (⟨true, path, key, []⟩, ← skipLineEnd rest)
  | cs => do
      let ((path, key), rest) ← readKey cs
      let rest ← dropChar? ']' rest
      return (⟨false, path, key, []⟩, ← skipLineEnd rest)

/-- The bindings up to the next header, and the sections from there on. A line at least is read
in each step, which `fuel` counts. -/
def readLines (fuel : Nat) (cs : List Char) : Option (List Binding × List Section) :=
  match fuel with
  | 0 => none
  | fuel + 1 =>
      match skipBlanks cs with
      | [] => some ([], [])
      | '[' :: rest => do
          let (header, rest) ← readHeader rest
          let (bindings, sections) ← readLines fuel rest
          return ([], { header with bindings } :: sections)
      | c :: rest =>
          if c = '#' || c = '\n' || c = '\r' then do
            readLines fuel (← skipLineEnd (c :: rest))
          else do
            let (binding, rest) ← readBinding (c :: rest)
            let (bindings, sections) ← readLines fuel rest
            return (binding :: bindings, sections)

/-- The root table of a document. A byte order mark may stand in front. -/
def read? (s : String) : Option Toml := do
  let cs :=
    match s.toList with
    | '\ufeff' :: rest => rest
    | cs => cs
  let (bindings, sections) ← readLines (cs.length + 1) cs
  let root ← addBindings bindings []
  let root ← sections.foldlM addSection root
  return .table (finish root)

end Interchain.Toml
