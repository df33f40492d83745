/-!
# Documents

What it takes to read records out of a data format: its values may be texts, truth values,
integers, lists, and members under names. A record is written as members under the names of its
fields, in any order and among others, or as the list of its fields. A field that is named
twice makes the record unreadable.
-/

set_option autoImplicit false

namespace Interchain

/-- A data format whose values carry records. -/
class Document (δ : Type) where
  text? : δ → Option String
  bool? : δ → Option Bool
  integer? : δ → Option Int
  items? : δ → Option (List δ)
  members? : δ → Option (List (String × δ))
  /-- The name of an alternative without fields. -/
  choice? : δ → Option String
  /-- Whether a record that is written as a list may go on after its last field. -/
  allowsSpareItems : Bool

namespace Document

variable {δ α ε : Type} [Document δ]

/-- A value that is written as text. -/
def parsed? (parse : String → Except ε α) (d : δ) : Option α := do
  (parse (← text? d)).toOption

/-- A natural number below `bound`. -/
def nat? (bound : Nat) (d : δ) : Option Nat := do
  let n ← integer? d
  if 0 ≤ n ∧ n < bound then some n.toNat else none

def uint8? (d : δ) : Option UInt8 :=
  (nat? UInt8.size d).map UInt8.ofNat

def uint32? (d : δ) : Option UInt32 :=
  (nat? UInt32.size d).map UInt32.ofNat

def uint64? (d : δ) : Option UInt64 :=
  (nat? UInt64.size d).map UInt64.ofNat

/-- A list of values of one kind. -/
def list? (item? : δ → Option α) (d : δ) : Option (List α) := do
  (← items? d).mapM item?

end Document

/-- The fields that a record has, by name. -/
abbrev Record (δ : Type) := List (String × δ)

namespace Record

variable {δ α : Type}

/-- The fields among `names` of a record, each at most once. -/
def ofDocument? [Document δ] (names : List String) (d : δ) : Option (Record δ) :=
  match Document.members? d, Document.items? d with
  | some members, _ =>
      let known := members.filter fun m => names.contains m.1
      if (known.map (·.1)).Nodup then some known else none
  | none, some items =>
      -- a list gives the fields in their order; those at its end may be missing
      if Document.allowsSpareItems δ || items.length ≤ names.length then
        some (names.zip items)
      else
        none
  | none, none => none

/-- The field of a name, read by `read?`; the record needs to have it. -/
def field? (r : Record δ) (name : String) (read? : δ → Option α) : Option α := do
  read? (← r.lookup name)

/-- The field of a name, read by `read?`; `default` if the record does not have it. -/
def fieldOr? (r : Record δ) (name : String) (default : α) (read? : δ → Option α) : Option α :=
  match r.lookup name with
  | some d => read? d
  | none => some default

end Record

end Interchain
