import Interchain.Proofs.Transfer.Module
import Interchain.Proofs.Transport.Reachable
import Interchain.Sample

/-!
# Refunds of the keeper

A refund of the keeper posts the inverse of the departure of the token, as long as the path in the
packet leads back to the token. So right after a message was sent its refund restores the ledger
and returns the token exactly if the denomination of the token reads as one of this chain
(`refund_inverts_send_iff`). A token whose denomination spells a path is refunded as the voucher of
the path, or not at all.
-/

set_option autoImplicit false

namespace Interchain

open Ledger

namespace ChannelKeeper

variable {β : Type} [Ledger β] [LawfulLedger β] {s t : Stage ChannelKeeper β}

/-- **If the path leads back to the token, the refund takes the departure back.** -/
theorem exists_refund_of_departure {packet : Packet} {data : PacketData} {sender : Address}
    {token : Coin} {b : β} (hsender : Address.parse data.sender = .ok sender)
    (hdenom : (Trace.parse data.denom).localDenom = .ok token.denom)
    (hamount : token.amount = data.amount)
    (hpermissions : permissions b transferModule = ⟨true, true⟩)
    (hpost : Journal.post b (departure packet.source data.denom sender token) = .ok s.ledger) :
    ∃ t, refund packet data s = .ok token t ∧ view t.ledger = view b := by
  have hback := Journal.post_inverse (Journal.post_view_of_post hpost)
    (permitted_departure hpermissions)
  rw [← refundJournal_eq_inverse] at hback
  obtain ⟨c, hc, hview⟩ := Journal.exists_post_of_view hback
  exact ⟨_, refund_eq_ok_iff.2 ⟨sender, hsender, hdenom, hamount, c, hc, rfl⟩, hview⟩

/-- **A refund inverts sending exactly for denominations of this chain.** If a reachable keeper
sends a message, the packet is committed under the number in the response. Its refund returns the
token of the message and restores what the ledger showed exactly if the denomination of the token
does not spell a path with hops. If it does, a refund returns the voucher of the path, which is
minted in any case if the token was burned. -/
theorem refund_inverts_send_iff (hk : s.keeper.Reachable)
    (hpermissions : permissions s.ledger transferModule = ⟨true, true⟩)
    {message : TransferMessage} {response : TransferResponse}
    (hsend : send message s = .ok response t) :
    ∃ packet data,
      t.keeper.commitments.get? ⟨message.sourceChannel, response.sequence⟩ = some packet ∧
        packet.decodeData = .ok data ∧
        ((∃ u, refund packet data t = .ok message.token u ∧ view u.ledger = view s.ledger) ↔
          message.token.denom.isPlain = true) ∧
        (message.token.denom.isPlain = false →
          let voucher : Coin := ⟨Trace.voucher message.token.denom.text, message.token.amount⟩
          (∀ coin u, refund packet data t = .ok coin u → coin = voucher) ∧
            (senderIsSource packet.source data.denom = false →
              ∃ u, refund packet data t = .ok voucher u)) := by
  obtain ⟨remote, sender, path, hadmits, b, hpost, rfl, rfl⟩ := send_eq_ok_iff.1 hsend
  refine ⟨s.keeper.outgoing message remote path, dataOf message path, ?_,
    decodeData_outgoing _ _ _ _, ⟨?_, ?_⟩, ?_⟩
  · -- the packet was committed under its number
    exact (FiniteMap.get?_insert _ _ _ _).trans (if_pos rfl)
  · rintro ⟨u, hrefund, -⟩
    obtain ⟨-, -, hdenom, -⟩ := refund_eq_ok_iff.1 hrefund
    exact (localDenom_of_fullPath_iff hk.held hadmits.path).1 hdenom
  · intro hplain
    have hdenom := (localDenom_of_fullPath_iff hk.held hadmits.path).2 hplain
    exact exists_refund_of_departure hadmits.sender hdenom rfl hpermissions hpost
  · intro hliteral
    have hvoucher := localDenom_of_fullPath_literal hk.held hadmits.path hliteral
    refine ⟨fun coin u hrefund => ?_, fun hburned => ?_⟩
    · obtain ⟨-, -, hdenom, hamount, -⟩ := refund_eq_ok_iff.1 hrefund
      obtain ⟨denom, amount⟩ := coin
      cases Except.ok.inj (hdenom.symm.trans hvoucher)
      exact congrArg (Coin.mk _) hamount
    · have hminter : (permissions b transferModule).minter = true := by
        rw [Journal.permissions_post hpost, hpermissions]
      obtain ⟨c, hc⟩ := exists_post_issuance hminter sender
        ⟨Trace.voucher message.token.denom.text, message.token.amount⟩
      refine ⟨_, refund_eq_ok_iff.2 ⟨sender, hadmits.sender, hvoucher, rfl, c, ?_, rfl⟩⟩
      rw [refundJournal, hburned, if_neg Bool.false_ne_true]
      exact hc

end ChannelKeeper

/-! ## A purse to send from -/

namespace Sample

/-- A keeper with a channel, and a ledger on which the first user has seven of a token. -/
def purse (denom : Denom) : Stage ChannelKeeper MemoryLedger where
  keeper := ({ port := .transfer } : ChannelKeeper).openChannel channel ⟨.transfer, channel⟩
  ledger := ((∅ : MemoryLedger).registerModule transferModule ⟨true, true⟩).fund (user 1) ⟨denom, 7⟩
  events := []

/-- The first user sends what is in the purse. -/
def remittance (denom : Denom) : TransferMessage where
  sourcePort := .transfer
  sourceChannel := channel
  token := ⟨denom, 7⟩
  sender := userText 1
  receiver := userText 2
  timeoutHeight := .zero
  timeoutTimestamp := 0

def copper : Denom :=
  ⟨"copper", by decide⟩

/-- A denomination that spells the path of a token from the other chain. -/
def lookalike : Denom :=
  ⟨"transfer/channel-0/copper", by decide⟩

theorem reachable_purse (denom : Denom) : (purse denom).keeper.Reachable :=
  .opened (.new .transfer) channel ⟨.transfer, channel⟩

end Sample

namespace ChannelKeeper

/-- The lookalike is burned when it is sent, and what its sender gets back is another token. -/
theorem lookalike_refunded_as_voucher :
    (Sample.purse Sample.lookalike).keeper.Reachable ∧
      permissions (Sample.purse Sample.lookalike).ledger transferModule = ⟨true, true⟩ ∧
      ∃ t packet data coin u,
        send (Sample.remittance Sample.lookalike) (Sample.purse Sample.lookalike) = .ok ⟨1⟩ t ∧
          t.keeper.commitments.get? ⟨Sample.channel, 1⟩ = some packet ∧
          packet.decodeData = .ok data ∧ refund packet data t = .ok coin u ∧
          coin ≠ (Sample.remittance Sample.lookalike).token ∧
          balance u.ledger (Sample.user 1) Sample.lookalike ≠
            balance (Sample.purse Sample.lookalike).ledger (Sample.user 1) Sample.lookalike := by
  let s := Sample.purse Sample.lookalike
  let message := Sample.remittance Sample.lookalike
  let packet := s.keeper.outgoing message ⟨.transfer, Sample.channel⟩ Sample.lookalike.text
  let data := dataOf message Sample.lookalike.text
  obtain ⟨response, t, hsend, hsent⟩ := Action.yields_iff.1
    (show Action.yields (send message) s (fun response t => decide (response = ⟨1⟩ ∧
        t.keeper.commitments.get? ⟨Sample.channel, 1⟩ = some packet) &&
      Action.yields (refund packet data) t fun coin u => decide (coin ≠ message.token ∧
        balance u.ledger (Sample.user 1) Sample.lookalike ≠
          balance s.ledger (Sample.user 1) Sample.lookalike)) = true by decide +kernel)
  rw [Bool.and_eq_true, Action.yields_iff] at hsent
  obtain ⟨hreply, coin, u, hrefund, hrefunded⟩ := hsent
  obtain ⟨rfl, hcommitted⟩ := of_decide_eq_true hreply
  obtain ⟨hcoin, hbalance⟩ := of_decide_eq_true hrefunded
  exact ⟨Sample.reachable_purse _, by decide +kernel, t, packet, data, coin, u, hsend, hcommitted,
    decodeData_outgoing _ _ _ _, hrefund, hcoin, hbalance⟩

/-- What was sent from a purse of copper is back after the refund. -/
theorem refund_inverts_send_iff_sample :
    ∃ t packet data u,
      send (Sample.remittance Sample.copper) (Sample.purse Sample.copper) = .ok ⟨1⟩ t ∧
        t.keeper.commitments.get? ⟨Sample.channel, 1⟩ = some packet ∧
        refund packet data t = .ok ⟨Sample.copper, 7⟩ u ∧
        view u.ledger = view (Sample.purse Sample.copper).ledger := by
  obtain ⟨response, t, hsend, hsent⟩ := Action.yields_iff.1
    (show Action.yields (send (Sample.remittance Sample.copper)) (Sample.purse Sample.copper)
      (fun response _ => decide (response = ⟨1⟩)) = true by decide +kernel)
  obtain rfl := of_decide_eq_true hsent
  obtain ⟨packet, data, hcommitted, -, hrefunds, -⟩ := refund_inverts_send_iff
    (Sample.reachable_purse Sample.copper) (by decide +kernel) hsend
  obtain ⟨u, hrefund, hview⟩ := hrefunds.2 (by decide +kernel)
  exact ⟨t, packet, data, u, hsend, hcommitted, hrefund, hview⟩

end ChannelKeeper

end Interchain
