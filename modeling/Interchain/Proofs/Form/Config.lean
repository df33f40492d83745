import Interchain.Config
import Interchain.Proofs.Form.Packets

/-!
# All data types are read back

The forms of settings are lawful too, though a configuration is written without its registry
where that is empty. `forms_restored` takes the data types together: what is written of a value
is read as the value, and so are the texts that are derived and never checked when they are made.
-/

set_option autoImplicit false

namespace Interchain

open Json

/-! ## Settings -/

theorem LogFormat.lawful : Lawful (fun f => .text f.word) LogFormat.decode where
  exact _ := .text _
  orderless := Orderless.choice.bind _
  decode_encode f := by
    have hfind : [human, json].find? (fun g => g.word = f.word) = some f := by
      cases f <;> decide
    rw [decode, choice?_text]
    exact hfind

namespace LoggingConfig

def fields (c : LoggingConfig) : Record Json :=
  [("format", .text c.format.word), ("level", .text c.level)]

theorem lawfulFields : LawfulFields fields decode := by
  refine .of_body (fun _ => rfl) (by decide) (fun _ => rfl) ?_ ?_ ?_
  · simp [fields]
  · intro r s h
    simp only [h.fieldOr? LogFormat.lawful.orderless, h.fieldOr? .text]
  · simp [fields, LogFormat.lawful.decode_encode]

theorem lawful : Lawful encode decode :=
  lawfulFields.lawful

end LoggingConfig

namespace TransferParams

def fields (p : TransferParams) : Record Json :=
  [("port_id", p.port.encode),
    ("send_enabled", .bool p.sendEnabled),
    ("receive_enabled", .bool p.receiveEnabled),
    ("require_export_permission", .bool p.requireExport),
    ("require_import_permission", .bool p.requireImport)]

theorem lawful_bool : Lawful Json.bool Document.bool? where
  exact b := .bool b
  orderless := .bool
  decode_encode _ := rfl

theorem lawfulFields : LawfulFields fields decode := by
  refine .of_body (fun _ => rfl) (by decide) (fun _ => rfl) ?_ ?_ ?_
  · simp [fields, Port.lawful.exact, lawful_bool.exact]
  · intro r s h
    simp only [h.fieldOr? Port.lawful.orderless, h.fieldOr? lawful_bool.orderless]
  · simp [fields, Port.lawful.decode_encode, lawful_bool.decode_encode]

theorem lawful : Lawful encode decode :=
  lawfulFields.lawful

end TransferParams

namespace Config

/-- The sections, that of the registry even if it is empty. -/
def fields (c : Config) : Record Json :=
  [("transfer", c.transfer.encode), ("logging", c.logging.encode),
    ("registry", .array (c.registry.map Entry.encode))]

theorem lawfulFields : LawfulFields fields decode := by
  refine .of_body (fun _ => rfl) (by decide) (fun _ => rfl) ?_ ?_ ?_
  · simp [fields, TransferParams.lawful.exact, LoggingConfig.lawful.exact,
      Entry.lawful.list.exact]
  · intro r s h
    simp only [h.fieldOr? TransferParams.lawful.orderless,
      h.fieldOr? LoggingConfig.lawful.orderless, h.fieldOr? Entry.lawful.list.orderless]
  · simp [fields, TransferParams.lawful.decode_encode, LoggingConfig.lawful.decode_encode,
      Entry.lawful.list.decode_encode]

/-- A configuration with entries is written with all its sections. -/
theorem encode_of_entries {c : Config} (h : c.registry ≠ []) :
    c.encode = .ofMembers c.fields := by
  rw [encode, if_neg (by simpa using h)]
  rfl

/-- A configuration without entries is written with its other two sections. -/
theorem encode_of_no_entries {c : Config} (h : c.registry = []) :
    c.encode = .ofMembers [("transfer", c.transfer.encode), ("logging", c.logging.encode)] := by
  rw [encode, if_pos (by simp [h]), List.append_nil]

/-- What is written of a configuration has members among its sections. -/
theorem encode_among (c : Config) : ∃ ms, c.encode = .ofMembers ms ∧ ms.Sublist c.fields := by
  by_cases h : c.registry = []
  · exact ⟨_, encode_of_no_entries h, .cons_cons _ (.cons_cons _ (.cons _ .slnil))⟩
  · exact ⟨_, encode_of_entries h, .refl _⟩

theorem decode_encode (c : Config) : decode c.encode = some c := by
  by_cases h : c.registry = []
  · have hrecord : Record.ofDocument? ["transfer", "logging", "registry"]
        (ofMembers [("transfer", c.transfer.encode), ("logging", c.logging.encode)]) = some _ :=
      Record.ofDocument?_of_members (members?_ofMembers _)
        (.cons_cons _ (.cons_cons _ (.cons _ .slnil))) (by decide)
    rw [encode_of_no_entries h, decode, hrecord]
    simp [TransferParams.lawful.decode_encode, LoggingConfig.lawful.decode_encode, ← h]
  · rw [encode_of_entries h, lawfulFields.decode_members]

theorem lawful : Lawful encode decode where
  exact c := by
    obtain ⟨ms, hms, hsub⟩ := c.encode_among
    rw [hms]
    exact .ofMembers fun m hm => lawfulFields.exact c m (hsub.subset hm)
  orderless := lawfulFields.orderless
  decode_encode := decode_encode

theorem restoresRecord : RestoresRecord encode decode fields where
  among := encode_among
  written := lawful.readAs
  members := lawfulFields.lawful.readAs
  items := lawfulFields.readAs_items

end Config

/-! ## All data types -/

/-- Whether every value of a data type is read back from what is written of it. -/
structure FormsRestored : Prop where
  amount : ∀ a : Amount, ReadAs Amount.decode a.encode a
  denom : ∀ d : Denom, ReadAs Denom.decode d.encode d
  address : ∀ a : Address, ReadAs Address.decode a.encode a
  port : ∀ p : Port, ReadAs Port.decode p.encode p
  channel : ∀ c : Channel, ReadAs Channel.decode c.encode c
  permission : ∀ p : Permission, ReadAs Permission.decode p.encode p
  acknowledgement : ∀ a : Acknowledgement, ReadAs Acknowledgement.decode a.encode a
  timeoutHeight : RestoresRecord TimeoutHeight.encode TimeoutHeight.decode TimeoutHeight.fields
  hop : RestoresRecord Hop.encode Hop.decode Hop.fields
  trace : RestoresRecord Trace.encode Trace.decode Trace.fields
  coin : RestoresRecord Coin.encode Coin.decode Coin.fields
  entry : RestoresRecord Entry.encode Entry.decode Entry.fields
  message : RestoresRecord TransferMessage.encode TransferMessage.decode TransferMessage.fields
  response : RestoresRecord TransferResponse.encode TransferResponse.decode
    TransferResponse.fields
  packet : RestoresRecord Packet.encode Packet.decode Packet.fields
  params : RestoresRecord TransferParams.encode TransferParams.decode TransferParams.fields
  logging : RestoresRecord LoggingConfig.encode LoggingConfig.decode LoggingConfig.fields
  config : RestoresRecord Config.encode Config.decode Config.fields
  /-- Module and escrow accounts are derived. -/
  derived : ∀ seed, Address.parse (Address.derivedText seed) = .ok (Address.derive seed)
  numbered : ∀ n : UInt64,
    Channel.parse (String.ofList (Channel.word ++ Nat.toDigits 10 n.toNat)) = .ok (Channel.ofNat n)
  transferPort : Port.parse "transfer" = .ok Port.transfer
  voucher : ∀ path, Denom.parse (Trace.voucherText path) = .ok (Trace.voucher path)

/-- **Every value of every data type is read back from what is written of it, and the texts that
are derived follow the rules that they are read by.** -/
theorem forms_restored : FormsRestored where
  amount := Amount.lawful.readAs
  denom := Denom.lawful.readAs
  address := Address.lawful.readAs
  port := Port.lawful.readAs
  channel := Channel.lawful.readAs
  permission := Permission.lawful.readAs
  acknowledgement := Acknowledgement.lawful.readAs
  timeoutHeight := TimeoutHeight.lawfulFields.restoresRecord
  hop := Hop.lawfulFields.restoresRecord
  trace := Trace.lawfulFields.restoresRecord
  coin := Coin.lawfulFields.restoresRecord
  entry := Entry.lawfulFields.restoresRecord
  message := TransferMessage.lawfulFields.restoresRecord
  response := TransferResponse.lawfulFields.restoresRecord
  packet := Packet.lawfulFields.restoresRecord
  params := TransferParams.lawfulFields.restoresRecord
  logging := LoggingConfig.lawfulFields.restoresRecord
  config := Config.restoresRecord
  derived seed := Address.parse_text (Address.derive seed)
  numbered n := Channel.parse_text (Channel.ofNat n)
  transferPort := Port.parse_text Port.transfer
  voucher path := Denom.parse_text (Trace.voucher path)

end Interchain
