import Interchain.Form.Document

/-!
# TOML documents

The values of a TOML document, and how they carry the parts of records. Floats and dates are
kept as they are written. An alternative without fields is a string, or a table whose one member
is empty; a date counts as a record without fields.
-/

set_option autoImplicit false

namespace Interchain

/-- A TOML value. -/
inductive Toml where
  | text (s : String)
  | integer (n : Int)
  | float (literal : String)
  | bool (b : Bool)
  | date (literal : String)
  | array (items : List Toml)
  | table (members : List (String × Toml))

namespace Toml

instance : Inhabited Toml := ⟨table []⟩

/-- Whether the value is an array or a table without anything in it. -/
def isEmpty : Toml → Bool
  | .array items => items.isEmpty
  | .table members => members.isEmpty
  | _ => false

instance : Document Toml where
  text?
    | .text s => some s
    | _ => none
  bool?
    | .bool b => some b
    | _ => none
  integer?
    | .integer n => some n
    | _ => none
  items?
    | .array items => some items
    | _ => none
  members?
    | .table members => some members
    | .date _ => some []
    | _ => none
  choice?
    | .text s => some s
    | .table [(key, value)] => if value.isEmpty then some key else none
    | _ => none
  allowsSpareItems := true

end Toml

end Interchain
