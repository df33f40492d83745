import Interchain.Form.Packets
import Interchain.Proofs.Form.Values

/-!
# Messages and packets on the wire

The forms of messages, packets and acknowledgements are lawful. The bytes of packet data and of
an acknowledgement say the data again, whatever texts are in them (`PacketData.ofBytes?_toBytes`,
`Acknowledgement.ofBytes?_toBytes`).
-/

set_option autoImplicit false

namespace Interchain

open Json

namespace TransferMessage

def fields (m : TransferMessage) : Record Json :=
  [("source_port", m.sourcePort.encode),
    ("source_channel", m.sourceChannel.encode),
    ("token", m.token.encode),
    ("sender", .text m.sender),
    ("receiver", .text m.receiver),
    ("timeout_height", m.timeoutHeight.encode),
    ("timeout_timestamp", .ofNat m.timeoutTimestamp.toNat)]

theorem lawfulFields : LawfulFields fields decode := by
  refine .of_body (fun _ => rfl) (by decide) (fun _ => rfl) ?_ ?_ ?_
  · simp [fields, Port.lawful.exact, Channel.lawful.exact, Coin.lawful.exact,
      TimeoutHeight.lawful.exact]
  · intro r s h
    simp only [h.field? Port.lawful.orderless, h.field? Channel.lawful.orderless,
      h.field? Coin.lawful.orderless, h.field? .text, h.field? TimeoutHeight.lawful.orderless,
      h.field? .uint64]
  · simp [fields, Port.lawful.decode_encode, Channel.lawful.decode_encode,
      Coin.lawful.decode_encode, TimeoutHeight.lawful.decode_encode]

theorem lawful : Lawful encode decode :=
  lawfulFields.lawful

end TransferMessage

namespace TransferResponse

def fields (m : TransferResponse) : Record Json :=
  [("sequence", .ofNat m.sequence.toNat)]

theorem lawfulFields : LawfulFields fields decode := by
  refine .of_body (fun _ => rfl) (by decide) (fun _ => rfl) ?_ ?_ ?_
  · simp [fields]
  · intro r s h
    simp only [h.field? .uint64]
  · simp [fields]

theorem lawful : Lawful encode decode :=
  lawfulFields.lawful

end TransferResponse

namespace Packet

def fields (p : Packet) : Record Json :=
  [("sequence", .ofNat p.sequence.toNat),
    ("source_port", p.sourcePort.encode),
    ("source_channel", p.sourceChannel.encode),
    ("destination_port", p.destinationPort.encode),
    ("destination_channel", p.destinationChannel.encode),
    ("data", .array (p.data.map fun b => .ofNat b.toNat)),
    ("timeout_height", p.timeoutHeight.encode),
    ("timeout_timestamp", .ofNat p.timeoutTimestamp.toNat)]

/-- A byte of the data is written as a number. -/
theorem lawful_byte : Lawful (fun b : UInt8 => .ofNat b.toNat) Document.uint8? where
  exact _ := .ofNat _
  orderless := .uint8
  decode_encode := uint8?_ofNat

theorem lawfulFields : LawfulFields fields decode := by
  refine .of_body (fun _ => rfl) (by decide) (fun _ => rfl) ?_ ?_ ?_
  · simp [fields, Port.lawful.exact, Channel.lawful.exact, lawful_byte.list.exact,
      TimeoutHeight.lawful.exact]
  · intro r s h
    simp only [h.field? .uint64, h.field? Port.lawful.orderless, h.field? Channel.lawful.orderless,
      h.field? lawful_byte.list.orderless, h.field? TimeoutHeight.lawful.orderless]
  · simp [fields, Port.lawful.decode_encode, Channel.lawful.decode_encode,
      lawful_byte.list.decode_encode, TimeoutHeight.lawful.decode_encode]

theorem lawful : Lawful encode decode :=
  lawfulFields.lawful

end Packet

namespace PacketData

def fields (d : PacketData) : Record Json :=
  [("denom", .text d.denom),
    ("amount", d.amount.encode),
    ("sender", .text d.sender),
    ("receiver", .text d.receiver)]

theorem lawfulFields : LawfulFields fields decode := by
  refine .of_body (fun _ => rfl) (by decide) (fun _ => rfl) ?_ ?_ ?_
  · simp [fields, Amount.lawful.exact]
  · intro r s h
    simp only [h.field? .text, h.field? Amount.lawful.orderless]
  · simp [fields, Amount.lawful.decode_encode]

theorem lawful : Lawful encode decode :=
  lawfulFields.lawful

/-- The fields in the order of their names. -/
def sortedFields (d : PacketData) : Record Json :=
  [("amount", d.amount.encode),
    ("denom", .text d.denom),
    ("receiver", .text d.receiver),
    ("sender", .text d.sender)]

theorem sortedFields_perm (d : PacketData) : d.fields.Perm d.sortedFields :=
  .trans (.swap _ _ _) (.cons _ (.cons _ (.swap _ _ [])))

/-- The bytes of packet data are a text of it, with its fields in the order of their names. -/
theorem spells_toBytes (d : PacketData) :
    Spells (.element (.ofMembers d.sortedFields)) d.toBytes := by
  have hexact : Exact (.ofMembers d.sortedFields) := .ofMembers fun m hm =>
    lawfulFields.exact d m (d.sortedFields_perm.mem_iff.2 hm)
  exact hexact.spells.toElement

/-- **The bytes of packet data are read as the data.** -/
@[simp]
theorem ofBytes?_toBytes (d : PacketData) : ofBytes? d.toBytes = some d :=
  (lawful.readAs d).text _ _ (reordered_ofMembers d.sortedFields_perm) d.spells_toBytes

theorem toBytes_inj {d d' : PacketData} : d.toBytes = d'.toBytes ↔ d = d' := by
  constructor
  · intro h
    have hd := ofBytes?_toBytes d
    rw [h, ofBytes?_toBytes] at hd
    exact (Option.some.inj hd).symm
  · rintro rfl
    rfl

end PacketData

namespace Acknowledgement

/-- An acknowledgement is an object with one member. -/
theorem decode_object {ms : List (List UInt8 × Json)} (h : ms.length ≠ 1) :
    decode (.object ms) = none := by
  match ms with
  | [] => rfl
  | [_] => exact absurd rfl h
  | _ :: _ :: _ => rfl

theorem orderless_decode : Orderless decode := by
  intro v w h
  induction h with
  | refl => rfl
  | trans _ _ ih₁ ih₂ => exact ih₁.trans ih₂
  | item => rfl
  | @members ms ks hperm =>
      match ms with
      | [m] => rw [List.singleton_perm.1 hperm]
      | [] => rw [hperm.nil_eq]
      | m :: m' :: ms =>
          have hlength := hperm.length_eq
          simp only [List.length_cons] at hlength
          rw [decode_object (by simp), decode_object (by omega)]
  | @member v w before key after h _ =>
      by_cases hlone : before = [] ∧ after = []
      · obtain ⟨rfl, rfl⟩ := hlone
        simp only [decode, List.nil_append, Orderless.text v w h]
      · have hlength : ∀ u : Json, (before ++ (key, u) :: after).length ≠ 1 := by
          intro u hone
          simp only [List.length_append, List.length_cons] at hone
          exact hlone ⟨List.length_eq_zero_iff.1 (by omega), List.length_eq_zero_iff.1 (by omega)⟩
        rw [decode_object (hlength v), decode_object (hlength w)]

theorem lawful : Lawful encode decode where
  exact a := by
    cases a with
    | result text => exact .ofMembers (by simp)
    | error reason => exact .ofMembers (by simp)
  orderless := orderless_decode
  decode_encode a := by
    cases a with
    | result text => simp [encode, ofMembers, decode]
    | error reason => simp [encode, ofMembers, decode]

/-- **The bytes of an acknowledgement are read as the acknowledgement.** -/
@[simp]
theorem ofBytes?_toBytes (a : Acknowledgement) : ofBytes? a.toBytes = some a :=
  (lawful.readAs a).compact

theorem toBytes_inj {a a' : Acknowledgement} : a.toBytes = a'.toBytes ↔ a = a' := by
  constructor
  · intro h
    have ha := ofBytes?_toBytes a
    rw [h, ofBytes?_toBytes] at ha
    exact (Option.some.inj ha).symm
  · rintro rfl
    rfl

end Acknowledgement

end Interchain
