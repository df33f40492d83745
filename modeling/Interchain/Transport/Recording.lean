import Interchain.Form.Packets
import Interchain.Transport.Basic

/-!
# A keeper that records

A transport keeper for trying the module without a chain around it. It puts every token into
escrow, takes denominations literally, keeps the messages it was asked to send, and can be told
to reject the next one after its token was put into escrow. A packet goes back to the end that it
comes from.
-/

set_option autoImplicit false

namespace Interchain

/-- The messages that were sent and what became of their packets. -/
structure RecordingKeeper where
  /-- In the order of sending. -/
  sent : List TransferMessage := []
  commitments : FiniteMap UInt64 Packet := ∅
  /-- The numbers of the packets whose commitments were cleared. -/
  cleared : List UInt64 := []
  /-- The reason to reject the next message with. -/
  failNextSend : Option String := none
deriving DecidableEq

namespace RecordingKeeper

/-- The packet for a message that is sent under a number. -/
def packetFor (m : TransferMessage) (sequence : UInt64) : Packet where
  sequence := sequence
  sourcePort := m.sourcePort
  sourceChannel := m.sourceChannel
  destinationPort := m.sourcePort
  destinationChannel := m.sourceChannel
  data := (PacketData.mk m.token.denom.text m.token.amount m.sender m.receiver).toBytes
  timeoutHeight := m.timeoutHeight
  timeoutTimestamp := m.timeoutTimestamp

/-- The number of messages sent so far. -/
def sequence (k : RecordingKeeper) : UInt64 :=
  UInt64.ofNat k.sent.length

/-- The packet of the last message. -/
def lastPacket (k : RecordingKeeper) : Option Packet :=
  k.sent.getLast?.map fun m => packetFor m k.sequence

/-- The keeper after a message, with its packet committed. -/
def record (k : RecordingKeeper) (m : TransferMessage) : RecordingKeeper :=
  let k := { k with sent := k.sent ++ [m] }
  { k with commitments := k.commitments.insert k.sequence (packetFor m k.sequence) }

variable {β : Type} [Ledger β]

def send (m : TransferMessage) : Action RecordingKeeper β TransferResponse := do
  let sender ← Action.parsed (Address.parse m.sender)
  let escrow := Address.escrow m.sourcePort m.sourceChannel
  Action.onLedger (Ledger.send sender escrow m.token)
  match (← get).keeper.failNextSend with
  | some reason =>
      -- one message is rejected; the next one passes
      modify fun s => { s with keeper := { s.keeper with failNextSend := none } }
      throw (.invalidPacketData reason)
  | none =>
      modify fun s => { s with keeper := s.keeper.record m }
      return ⟨(← get).keeper.sequence⟩

/-- The local coin that the data of a packet name. -/
def coinOf (data : PacketData) : Action RecordingKeeper β Coin := do
  let denom ← Action.parsed (Trace.parse data.denom).localDenom
  return ⟨denom, data.amount⟩

def receive (packet : Packet) (data : PacketData) : Action RecordingKeeper β Coin := do
  let receiver ← Action.parsed (Address.parse data.receiver)
  let coin ← coinOf data
  let escrow := Address.escrow packet.destinationPort packet.destinationChannel
  Action.onLedger (Ledger.send escrow receiver coin)
  return coin

def refund (packet : Packet) (data : PacketData) : Action RecordingKeeper β Coin := do
  let sender ← Action.parsed (Address.parse data.sender)
  let coin ← coinOf data
  let escrow := Address.escrow packet.sourcePort packet.sourceChannel
  Action.onLedger (Ledger.send escrow sender coin)
  return coin

/-- Whether the packet is committed as it was sent. -/
def hasCommitment (k : RecordingKeeper) (p : Packet) : Bool :=
  k.commitments.get? p.sequence = some p

/-- Forgets the commitment under the number of a packet and notes the number. -/
def clearCommitment (k : RecordingKeeper) (p : Packet) : RecordingKeeper :=
  if k.commitments.contains p.sequence then
    { k with
      commitments := k.commitments.erase p.sequence
      cleared := k.cleared ++ [p.sequence] }
  else
    k

instance : Transport RecordingKeeper where
  send := send
  receive := receive
  refund := refund
  hasCommitment := hasCommitment
  clearCommitment := clearCommitment

end RecordingKeeper

end Interchain
