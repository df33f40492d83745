import Interchain.Proofs.Form.Documents
import Interchain.Proofs.Json.Compact

/-!
# Lawful forms

A written form is lawful if it is printed without loss and read by an orderless reader that finds
in it what was written; `ReadAs` is what follows for the texts of the form. The form of a record
follows from its fields (`LawfulFields`).
-/

set_option autoImplicit false

namespace Interchain

open Json

variable {α : Type}

/-- Whether every text of every reordering of the value is read as `a`, its compact form among
them. -/
structure ReadAs (decode : Json → Option α) (v : Json) (a : α) : Prop where
  compact : (Json.read? v.print).bind decode = some a
  text : ∀ w bs, Reordered v w → Spells (.element w) bs → (Json.read? bs).bind decode = some a

/-- What makes a written form one that is read back. -/
structure Lawful (encode : α → Json) (decode : Json → Option α) : Prop where
  exact : ∀ a, Exact (encode a)
  orderless : Orderless decode
  decode_encode : ∀ a, decode (encode a) = some a

/-- What makes the fields of a record ones that are read back, as members and as a list. -/
structure LawfulFields (fields : α → Record Json) (decode : Json → Option α) : Prop where
  exact : ∀ a, ∀ m ∈ fields a, Exact m.2
  orderless : Orderless decode
  decode_members : ∀ a, decode (.ofMembers (fields a)) = some a
  decode_items : ∀ a, decode (.array ((fields a).map (·.2))) = some a

/-- Whether the values of a type are read back from what is written of them, which are members
among their fields, and from all their fields as members and as a list. -/
structure RestoresRecord (encode : α → Json) (decode : Json → Option α)
    (fields : α → Record Json) : Prop where
  among : ∀ a, ∃ ms, encode a = .ofMembers ms ∧ ms.Sublist (fields a)
  written : ∀ a, ReadAs decode (encode a) a
  members : ∀ a, ReadAs decode (.ofMembers (fields a)) a
  items : ∀ a, ReadAs decode (.array ((fields a).map (·.2))) a

theorem readAs {decode : Json → Option α} {v : Json} {a : α} (hexact : Exact v)
    (hdecode : Orderless decode) (h : decode v = some a) : ReadAs decode v a where
  compact := by rw [read?_print hexact, Option.bind_some, h]
  text w bs hvw hbs := by
    rw [read?_eq_some_iff.2 hbs, Option.bind_some, ← hdecode v w hvw, h]

theorem Lawful.readAs {encode : α → Json} {decode : Json → Option α} (h : Lawful encode decode)
    (a : α) : ReadAs decode (encode a) a :=
  Interchain.readAs (h.exact a) h.orderless (h.decode_encode a)

namespace LawfulFields

variable {fields : α → Record Json} {decode : Json → Option α}

/-- A record whose reader takes the record over the names apart, field by field. -/
theorem of_body {names : List String} {body : Record Json → Option α}
    (hdecode : ∀ v, decode v = (Record.ofDocument? names v).bind body) (hnodup : names.Nodup)
    (hnames : ∀ a, (fields a).map (·.1) = names)
    (hexact : ∀ a, ∀ m ∈ fields a, Exact m.2)
    (hagree : ∀ r s, Record.Agree r s → body r = body s)
    (hbody : ∀ a, body (fields a) = some a) : LawfulFields fields decode where
  exact := hexact
  orderless := by
    rw [funext hdecode]
    exact .record names hagree
  decode_members a := by
    rw [hdecode, Record.ofDocument?_of_members (members?_ofMembers _) (hnames a ▸ .refl _) hnodup,
      Option.bind_some, hbody]
  decode_items a := by
    rw [hdecode, Record.ofDocument?_array (hnames a), Option.bind_some, hbody]

theorem lawful (h : LawfulFields fields decode) :
    Lawful (fun a => .ofMembers (fields a)) decode where
  exact a := .ofMembers (h.exact a)
  orderless := h.orderless
  decode_encode := h.decode_members

theorem readAs_items (h : LawfulFields fields decode) (a : α) :
    ReadAs decode (.array ((fields a).map (·.2))) a := by
  refine readAs (.array fun v hv => ?_) h.orderless (h.decode_items a)
  obtain ⟨m, hm, rfl⟩ := List.mem_map.1 hv
  exact h.exact a m hm

/-- A record that is written with all its fields is read back. -/
theorem restoresRecord (h : LawfulFields fields decode) :
    RestoresRecord (fun a => .ofMembers (fields a)) decode fields where
  among a := ⟨fields a, rfl, .refl _⟩
  written := h.lawful.readAs
  members := h.lawful.readAs
  items := h.readAs_items

end LawfulFields

end Interchain
