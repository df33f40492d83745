import Interchain.Form.Values
import Interchain.Proofs.Form.Lawful

/-!
# Written forms that are read back

The forms of amounts, texts with a rule, traces and registry entries are lawful. A record says
its fields in the order of their declaration (`fields`), and its form is that of a record with
these fields.
-/

set_option autoImplicit false

namespace Interchain

open Json

/-! ## Values that are texts -/

/-- A value is read back if its parser takes the text that is written. -/
theorem lawful_text {α ε : Type} {parse : String → Except ε α} {text : α → String}
    (h : ∀ a, parse (text a) = .ok a) :
    Lawful (fun a => .text (text a)) (Document.parsed? parse) where
  exact a := .text _
  orderless := .parsed parse
  decode_encode a := by
    rw [Document.parsed?, text?_text]
    show (parse (text a)).toOption = some a
    rw [h]
    rfl

theorem Amount.lawful : Lawful Amount.encode Amount.decode :=
  lawful_text Amount.parse_toString

theorem Address.lawful : Lawful Validated.encode Address.decode :=
  lawful_text Address.parse_text

theorem Denom.lawful : Lawful Validated.encode Denom.decode :=
  lawful_text Denom.parse_text

theorem Port.lawful : Lawful Validated.encode Port.decode :=
  lawful_text Port.parse_text

theorem Channel.lawful : Lawful Validated.encode Channel.decode :=
  lawful_text Channel.parse_text

theorem Permission.lawful : Lawful Permission.encode Permission.decode where
  exact p := .text _
  orderless := Orderless.choice.bind _
  decode_encode p := by
    have hfind : Permission.all.find? (fun q => q.word = p.word) = some p := by
      cases p <;> decide
    rw [Permission.decode, Permission.encode, choice?_text]
    exact hfind

/-! ## Records -/

theorem Lawful.list {α : Type} {encode : α → Json} {decode : Json → Option α}
    (h : Lawful encode decode) :
    Lawful (fun as => .array (as.map encode)) (Document.list? decode) where
  exact as := .array fun v hv => by
    obtain ⟨a, -, rfl⟩ := List.mem_map.1 hv
    exact h.exact a
  orderless := h.orderless.list
  decode_encode _ := Document.list?_of_items rfl h.decode_encode

namespace TimeoutHeight

def fields (h : TimeoutHeight) : Record Json :=
  [("revision_number", .ofNat h.revisionNumber.toNat),
    ("revision_height", .ofNat h.revisionHeight.toNat)]

theorem lawfulFields : LawfulFields fields decode := by
  refine .of_body (fun _ => rfl) (by decide) (fun _ => rfl) ?_ ?_ ?_
  · simp [fields]
  · intro r s h
    simp only [h.field? .uint64]
  · simp [fields]

theorem lawful : Lawful encode decode :=
  lawfulFields.lawful

end TimeoutHeight

namespace Hop

def fields (h : Hop) : Record Json :=
  [("port_id", h.port.encode), ("channel_id", h.channel.encode)]

theorem lawfulFields : LawfulFields fields decode := by
  refine .of_body (fun _ => rfl) (by decide) (fun _ => rfl) ?_ ?_ ?_
  · simp [fields, Port.lawful.exact, Channel.lawful.exact]
  · intro r s h
    simp only [h.field? Port.lawful.orderless, h.field? Channel.lawful.orderless]
  · simp [fields, Port.lawful.decode_encode, Channel.lawful.decode_encode]

theorem lawful : Lawful encode decode :=
  lawfulFields.lawful

end Hop

namespace Trace

def fields (t : Trace) : Record Json :=
  [("path", .array (t.hops.map Hop.encode)), ("base_denom", .text t.base)]

theorem lawfulFields : LawfulFields fields decode := by
  refine .of_body (fun _ => rfl) (by decide) (fun _ => rfl) ?_ ?_ ?_
  · simp [fields, Hop.lawful.list.exact]
  · intro r s h
    simp only [h.field? Hop.lawful.list.orderless, h.field? .text]
  · simp [fields, Hop.lawful.list.decode_encode]

theorem lawful : Lawful encode decode :=
  lawfulFields.lawful

end Trace

namespace Coin

def fields (c : Coin) : Record Json :=
  [("denom", c.denom.encode), ("amount", c.amount.encode)]

theorem lawfulFields : LawfulFields fields decode := by
  refine .of_body (fun _ => rfl) (by decide) (fun _ => rfl) ?_ ?_ ?_
  · simp [fields, Denom.lawful.exact, Amount.lawful.exact]
  · intro r s h
    simp only [h.field? Denom.lawful.orderless, h.field? Amount.lawful.orderless]
  · simp [fields, Denom.lawful.decode_encode, Amount.lawful.decode_encode]

theorem lawful : Lawful encode decode :=
  lawfulFields.lawful

end Coin

namespace Entry

def fields (e : Entry) : Record Json :=
  [("denom", .text e.denom),
    ("base_denom", .text e.baseDenom),
    ("path", .text e.path),
    ("decimals", .ofNat e.decimals.toNat),
    ("ibc_counterparty_denom", .text e.counterparty),
    ("unit_denom", .text e.unit),
    ("display_name", .text e.displayName),
    ("permissions", .array (e.permissions.map Permission.encode))]

theorem lawfulFields : LawfulFields fields decode := by
  refine .of_body (fun _ => rfl) (by decide) (fun _ => rfl) ?_ ?_ ?_
  · simp [fields, Permission.lawful.list.exact]
  · intro r s h
    simp only [h.fieldOr? .text, h.fieldOr? .uint32, h.fieldOr? Permission.lawful.list.orderless]
  · simp [fields, Permission.lawful.list.decode_encode]

theorem lawful : Lawful encode decode :=
  lawfulFields.lawful

end Entry

end Interchain
