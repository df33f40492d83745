import Interchain.Form.Packets
import Interchain.Transfer.Plan

/-!
# Reversal of converted transfers

When a packet fails, the transport keeper has refunded its literal amount to the sender. If the
token of the packet is the counterpart of a converted token, the refund is swapped back into the
unit it stands for. Whether it is one is read off the packet and the registry alone.
-/

set_option autoImplicit false

namespace Interchain

/-- Which side of the channel the token of a failed packet is from. -/
inductive RefundShape where
  /-- This one: the packet carries a local denomination. -/
  | source
  /-- The other one: the packet carries a path that starts with the channel. -/
  | sink
deriving DecidableEq

/-- What the reversal of a failed packet did. -/
inductive ReversalOutcome where
  /-- The packet was no converted transfer, and the literal refund stands. -/
  | notConverted
  | reversed (burned refunded : Coin)
deriving DecidableEq

namespace Reversal

/-- The shape of the refund and the plan that undoes the conversion, if the packet is a converted
transfer. A returning voucher has to be registered with the base of its path. -/
def recognize (r : Registry) (packet : Packet) (data : PacketData) :
    Option (RefundShape × Plan) :=
  let trace := Trace.parse data.denom
  match trace.localDenom with
  | .error _ => none
  | .ok denom =>
      if senderIsSource packet.source data.denom then
        (Plan.resolve r denom).map (.source, ·)
      else
        let entry := r.entry denom.text
        if entry.isEmpty || entry.baseDenom ≠ trace.base then
          none
        else
          (Plan.resolve r denom).map (.sink, ·)

/-- Undoes the conversion behind a failed packet, if there was one. -/
def reverse {κ β : Type} [Ledger β] (r : Registry) (packet : Packet) (data : PacketData) :
    Action κ β ReversalOutcome := do
  match recognize r packet data with
  | none => return .notConverted
  | some (_, plan) =>
      let sender ← Action.parsed (Address.parse data.sender)
      let e ← Action.atomically (plan.execute sender data.amount)
      Action.emit "convert_refund" [
        ("module", transferModule),
        ("refund_receiver", sender.text),
        ("refund_denom", e.released.denom.text),
        ("refund_amount", toString e.released.amount),
        ("convert_denom", e.burned.denom.text),
        ("convert_amount", toString e.burned.amount)]
      return .reversed e.burned e.released

end Reversal

end Interchain
