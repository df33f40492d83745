import Interchain.Proofs.Form.Packets
import Interchain.Transport.Channels
import Interchain.Transport.Recording

/-!
# What is told apart on the wire

The bytes of packet data and of acknowledgements are read back, so different values have different
bytes, and a keeper that has one of two packets committed does not have the other.
-/

set_option autoImplicit false

namespace Interchain

/-- A keeper has at most one packet committed under a number. -/
theorem ChannelKeeper.data_eq_of_hasCommitment {k : ChannelKeeper} {p : Packet}
    {bs bs' : List UInt8} (h : k.hasCommitment { p with data := bs } = true)
    (h' : k.hasCommitment { p with data := bs' } = true) : bs = bs' := by
  have h : k.commitments.get? p.key = some { p with data := bs } := of_decide_eq_true h
  have h' : k.commitments.get? p.key = some { p with data := bs' } := of_decide_eq_true h'
  rw [h] at h'
  exact congrArg Packet.data (Option.some.inj h')

theorem RecordingKeeper.data_eq_of_hasCommitment {k : RecordingKeeper} {p : Packet}
    {bs bs' : List UInt8} (h : k.hasCommitment { p with data := bs } = true)
    (h' : k.hasCommitment { p with data := bs' } = true) : bs = bs' := by
  have h : k.commitments.get? p.sequence = some { p with data := bs } := of_decide_eq_true h
  have h' : k.commitments.get? p.sequence = some { p with data := bs' } := of_decide_eq_true h'
  rw [h] at h'
  exact congrArg Packet.data (Option.some.inj h')

/-- Whether values are read back from their bytes, and told apart by them. -/
structure ToldApart : Prop where
  data : ∀ d : PacketData, PacketData.ofBytes? d.toBytes = some d
  acknowledgement : ∀ a : Acknowledgement, Acknowledgement.ofBytes? a.toBytes = some a
  data_injective : ∀ d d' : PacketData, d.toBytes = d'.toBytes → d = d'
  acknowledgement_injective : ∀ a a' : Acknowledgement, a.toBytes = a'.toBytes → a = a'
  channels : ∀ (k : ChannelKeeper) (p : Packet) (d d' : PacketData), d ≠ d' →
    ¬ (k.hasCommitment { p with data := d.toBytes } = true ∧
      k.hasCommitment { p with data := d'.toBytes } = true)
  recording : ∀ (k : RecordingKeeper) (p : Packet) (d d' : PacketData), d ≠ d' →
    ¬ (k.hasCommitment { p with data := d.toBytes } = true ∧
      k.hasCommitment { p with data := d'.toBytes } = true)

/-- **All packet data and acknowledgements are read back from their bytes, and no keeper accepts
two packets that differ in what their data say.** -/
theorem toldApart_on_wire : ToldApart where
  data := PacketData.ofBytes?_toBytes
  acknowledgement := Acknowledgement.ofBytes?_toBytes
  data_injective _ _ := PacketData.toBytes_inj.1
  acknowledgement_injective _ _ := Acknowledgement.toBytes_inj.1
  channels _ _ _ _ hne h :=
    hne (PacketData.toBytes_inj.1 (ChannelKeeper.data_eq_of_hasCommitment h.1 h.2))
  recording _ _ _ _ hne h :=
    hne (PacketData.toBytes_inj.1 (RecordingKeeper.data_eq_of_hasCommitment h.1 h.2))

end Interchain
