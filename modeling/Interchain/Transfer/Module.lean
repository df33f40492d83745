import Interchain.Transfer.Outbound
import Interchain.Transfer.Reversal

/-!
# The transfer module

Handles messages of users, incoming packets, and what becomes of the packets that were sent:
acknowledgements and timeouts. A failed packet is refunded by the transport keeper and, if it was
a converted transfer, swapped back into the token that was given. Only packets that are still
committed as they were sent are settled, so nothing is refunded twice.
-/

set_option autoImplicit false

namespace Interchain

/-- The switches of the transfer module. -/
structure TransferParams where
  /-- The port that the module is bound to. -/
  port : Port := .transfer
  sendEnabled : Bool := true
  receiveEnabled : Bool := true
  /-- Only tokens with the permission to leave the chain may be sent. -/
  requireExport : Bool := false
  /-- Only tokens with the permission to come in may be received. -/
  requireImport : Bool := false
deriving DecidableEq

/-- The transfer module of a chain. -/
structure TransferModule where
  registry : Registry
  params : TransferParams := {}

namespace Packet

/-- What the packet says, or why that cannot be told. The reason `malformed JSON` stands for the
texts of a JSON library, which name the fault and its place. It gets into the acknowledgement of a
packet that is refused, where such a text would stand in full. -/
def decodeData (p : Packet) : Except TransferError PacketData :=
  match PacketData.ofBytes? p.data with
  | some data => .ok data
  | none => .error (.invalidPacketData "malformed JSON")

end Packet

namespace TransferModule

variable {κ β : Type} [Transport κ] [Ledger β]

/-- Handles the message of a user, with the token converted first where that is due. -/
def transfer (m : TransferModule) (message : TransferMessage) : Action κ β TransferResponse := do
  if !m.params.sendEnabled then
    throw .sendDisabled
  if message.sourcePort ≠ m.params.port then
    throw (.unknownPort message.sourcePort)
  Outbound.transfer m.registry m.params.requireExport message

/-! ## Incoming packets -/

omit [Transport κ] in
/-- Swaps a received counterpart for its unit, if it has one; the coin is what the receiver
ends up with. -/
def convertReceived (m : TransferModule) (data : PacketData) (received : Coin) :
    Action κ β Coin := do
  match Plan.resolve m.registry received.denom with
  | none => return received
  | some plan =>
      let receiver ← Action.parsed (Address.parse data.receiver)
      let e ← plan.execute receiver received.amount
      Action.emit "convert_received" [
        ("module", transferModule),
        ("receiver", receiver.text),
        ("convert_amount", toString e.burned.amount),
        ("convert_denom", e.burned.denom.text),
        ("amount", toString e.released.amount),
        ("denom", e.released.denom.text)]
      return e.released

/-- Credits a packet with the data `data`. -/
def credit (m : TransferModule) (packet : Packet) (data : PacketData) : Action κ β Coin := do
  let received ← Transport.receive packet data
  if m.params.requireImport &&
      !(m.registry.entry received.denom.text).permits [.ibcImport] then
    throw (.unauthorized received.denom .ibcImport)
  m.convertReceived data received

/-- Credits an incoming packet as one unit of work. -/
def receive (m : TransferModule) (packet : Packet) : Action κ β Coin := do
  if !m.params.receiveEnabled then
    throw .receiveDisabled
  let data ← MonadExcept.ofExcept packet.decodeData
  Action.atomically (m.credit packet data)

/-- Credits an incoming packet and answers with an acknowledgement. A packet that cannot be
credited is reported and acknowledged with the cause. -/
def onPacket (m : TransferModule) (packet : Packet) : Action κ β Acknowledgement := fun s =>
  match (m.receive packet).run s with
  | .ok _ s => .ok .success s
  | .error error s =>
      (do
        Action.emit "fungible_token_packet" [
          ("module", transferModule),
          ("success", "false"),
          ("error", error.message)]
        return .error error.message : Action κ β Acknowledgement).run s

/-! ## Settling packets that were sent -/

omit [Ledger β] in
/-- Fails unless the packet is still committed as it was sent. -/
def requireCommitment (packet : Packet) : Action κ β Unit := do
  if !Transport.hasCommitment (← get).keeper packet then
    throw (.commitmentNotFound packet.sourceChannel packet.sequence)

omit [Ledger β] in
/-- Forgets the commitment of a packet. -/
def clearCommitment (packet : Packet) : Action κ β Unit :=
  modify fun s => { s with keeper := Transport.clearCommitment s.keeper packet }

/-- Refunds the sender of a failed packet, undoes the conversion if there was one, and forgets
the commitment. -/
def refund (m : TransferModule) (packet : Packet) (data : PacketData) :
    Action κ β ReversalOutcome := do
  -- a refund that cannot be reversed is no refund: both land or neither does
  let outcome ← Action.atomically do
    let _ ← Transport.refund packet data
    Reversal.reverse m.registry packet data
  clearCommitment packet
  return outcome

/-- Settles a packet by the acknowledgement of the other chain: a success clears the commitment
only, an error refunds the sender and yields what that did. -/
def onAcknowledgement (m : TransferModule) (packet : Packet) (ack : Acknowledgement) :
    Action κ β (Option ReversalOutcome) := do
  requireCommitment packet
  let data ← MonadExcept.ofExcept packet.decodeData
  let attributes := [
    ("module", transferModule),
    ("receiver", data.receiver),
    ("denom", data.denom),
    ("amount", toString data.amount)]
  match ack with
  | .result _ =>
      clearCommitment packet
      Action.emit "fungible_token_packet" (attributes ++ [("success", "true")])
      return none
  | .error reason =>
      let outcome ← m.refund packet data
      Action.emit "fungible_token_packet"
        (attributes ++ [("success", "false"), ("error", reason)])
      return some outcome

/-- Settles a packet that timed out by refunding its sender. -/
def onTimeout (m : TransferModule) (packet : Packet) : Action κ β ReversalOutcome := do
  requireCommitment packet
  let data ← MonadExcept.ofExcept packet.decodeData
  let outcome ← m.refund packet data
  Action.emit "timeout" [
    ("module", transferModule),
    ("refund_receiver", data.sender),
    ("refund_denom", data.denom),
    ("refund_amount", toString data.amount)]
  return outcome

end TransferModule

end Interchain
