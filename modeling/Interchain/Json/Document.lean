import Interchain.Form.Document
import Interchain.Json.Reader

/-!
# Records in JSON

How JSON values carry the parts of records. An integer has neither fraction nor exponent, and
zero has no sign. An alternative without fields is a string, or an object whose one member is
null.
-/

set_option autoImplicit false

namespace Interchain.Json

/-- The members of an object, if all the keys are texts. -/
def textMembers? (ms : List (List UInt8 × Json)) : Option (List (String × Json)) :=
  ms.mapM fun m => (Text.ofBytes? m.1).map (·, m.2)

instance : Document Json where
  text?
    | .string content => Text.ofBytes? content
    | _ => none
  bool?
    | .bool b => some b
    | _ => none
  integer?
    | .integer false n => some n
    | .integer true (n + 1) => some (-(n + 1))
    | _ => none
  items?
    | .array items => some items
    | _ => none
  members?
    | .object members => textMembers? members
    | _ => none
  choice?
    | .string content => Text.ofBytes? content
    | .object [(key, .null)] => Text.ofBytes? key
    | _ => none
  allowsSpareItems := false

end Interchain.Json
