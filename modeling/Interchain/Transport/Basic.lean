import Interchain.Packet
import Interchain.Transfer.Action

/-!
# Transport keepers

A transport keeper takes tokens out of the sender's account and commits a packet for them,
credits what comes in, and refunds what failed. It knows nothing about conversion between
precisions. The transfer module works with any keeper.
-/

set_option autoImplicit false

namespace Interchain

/-- The operations of a transport keeper, on any ledger. -/
class Transport (κ : Type) where
  /-- Moves the token of a message out of its sender's account and commits a packet for it. -/
  send {β : Type} [Ledger β] (message : TransferMessage) : Action κ β TransferResponse
  /-- Credits the receiver of a packet; the coin is what was credited. -/
  receive {β : Type} [Ledger β] (packet : Packet) (data : PacketData) : Action κ β Coin
  /-- Returns the literal amount of a packet to its sender; the coin is what was returned. -/
  refund {β : Type} [Ledger β] (packet : Packet) (data : PacketData) : Action κ β Coin
  /-- Whether the packet is still committed as it was sent. -/
  hasCommitment : κ → Packet → Bool
  /-- Forgets the commitment of a packet. -/
  clearCommitment : κ → Packet → κ

end Interchain
