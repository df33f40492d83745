import Interchain.Form.Values
import Interchain.Packet

/-!
# Written forms of messages, packets and acknowledgements

The bytes of packet data and of acknowledgements are compact JSON. In packet data the keys are
sorted and the amount is a text. Reading accepts any JSON text of the right shape.
-/

set_option autoImplicit false

namespace Interchain

open Document

variable {δ : Type} [Document δ]

namespace TransferMessage

def decode (d : δ) : Option TransferMessage := do
  let r ← Record.ofDocument? ["source_port", "source_channel", "token", "sender", "receiver",
    "timeout_height", "timeout_timestamp"] d
  return {
    sourcePort := ← r.field? "source_port" Port.decode
    sourceChannel := ← r.field? "source_channel" Channel.decode
    token := ← r.field? "token" Coin.decode
    sender := ← r.field? "sender" text?
    receiver := ← r.field? "receiver" text?
    timeoutHeight := ← r.field? "timeout_height" TimeoutHeight.decode
    timeoutTimestamp := ← r.field? "timeout_timestamp" uint64? }

def encode (m : TransferMessage) : Json :=
  .ofMembers [
    ("source_port", m.sourcePort.encode),
    ("source_channel", m.sourceChannel.encode),
    ("token", m.token.encode),
    ("sender", .text m.sender),
    ("receiver", .text m.receiver),
    ("timeout_height", m.timeoutHeight.encode),
    ("timeout_timestamp", .ofNat m.timeoutTimestamp.toNat)]

end TransferMessage

namespace TransferResponse

def decode (d : δ) : Option TransferResponse := do
  let r ← Record.ofDocument? ["sequence"] d
  return { sequence := ← r.field? "sequence" uint64? }

def encode (m : TransferResponse) : Json :=
  .ofMembers [("sequence", .ofNat m.sequence.toNat)]

end TransferResponse

namespace PacketData

def decode (d : δ) : Option PacketData := do
  let r ← Record.ofDocument? ["denom", "amount", "sender", "receiver"] d
  return {
    denom := ← r.field? "denom" text?
    amount := ← r.field? "amount" Amount.decode
    sender := ← r.field? "sender" text?
    receiver := ← r.field? "receiver" text? }

/-- The fields in the order of their declaration. -/
def encode (d : PacketData) : Json :=
  .ofMembers [
    ("denom", .text d.denom),
    ("amount", d.amount.encode),
    ("sender", .text d.sender),
    ("receiver", .text d.receiver)]

/-- The bytes that go into a packet, with the fields in the order of their names. -/
def toBytes (d : PacketData) : List UInt8 :=
  (Json.ofMembers [
    ("amount", d.amount.encode),
    ("denom", .text d.denom),
    ("receiver", .text d.receiver),
    ("sender", .text d.sender)]).print

/-- The data that the bytes of a packet say. -/
def ofBytes? (bs : List UInt8) : Option PacketData := do
  decode (← Json.read? bs)

end PacketData

namespace Packet

def decode (d : δ) : Option Packet := do
  let r ← Record.ofDocument? ["sequence", "source_port", "source_channel", "destination_port",
    "destination_channel", "data", "timeout_height", "timeout_timestamp"] d
  return {
    sequence := ← r.field? "sequence" uint64?
    sourcePort := ← r.field? "source_port" Port.decode
    sourceChannel := ← r.field? "source_channel" Channel.decode
    destinationPort := ← r.field? "destination_port" Port.decode
    destinationChannel := ← r.field? "destination_channel" Channel.decode
    data := ← r.field? "data" (list? uint8?)
    timeoutHeight := ← r.field? "timeout_height" TimeoutHeight.decode
    timeoutTimestamp := ← r.field? "timeout_timestamp" uint64? }

def encode (p : Packet) : Json :=
  .ofMembers [
    ("sequence", .ofNat p.sequence.toNat),
    ("source_port", p.sourcePort.encode),
    ("source_channel", p.sourceChannel.encode),
    ("destination_port", p.destinationPort.encode),
    ("destination_channel", p.destinationChannel.encode),
    ("data", .array (p.data.map fun b => .ofNat b.toNat)),
    ("timeout_height", p.timeoutHeight.encode),
    ("timeout_timestamp", .ofNat p.timeoutTimestamp.toNat)]

end Packet

namespace Acknowledgement

/-- An object with one member, the alternative with its text. -/
def decode : Json → Option Acknowledgement
  | .object [(key, value)] => do
      let key ← Text.ofBytes? key
      if key = "result" then
        return .result (← text? value)
      else if key = "error" then
        return .error (← text? value)
      else
        none
  | _ => none

def encode : Acknowledgement → Json
  | .result text => .ofMembers [("result", .text text)]
  | .error reason => .ofMembers [("error", .text reason)]

def toBytes (a : Acknowledgement) : List UInt8 :=
  a.encode.print

def ofBytes? (bs : List UInt8) : Option Acknowledgement := do
  decode (← Json.read? bs)

end Acknowledgement

end Interchain
