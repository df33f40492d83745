import Interchain.Proofs.FiniteMap
import Interchain.Proofs.Form.Packets
import Interchain.Proofs.Transfer.Lockstep
import Interchain.Proofs.Transport.Channels
import Interchain.Transport.Recording

/-!
# The recording keeper next to the keeper of channels

The recording keeper knows of no channels and no vouchers, so it can stand in for the keeper of
channels only for messages that fit a single open channel and carry a token of this chain. For
these it can: `Doubles` says how the two keepers are related, and sending (`lockstep_send`) and
refunding (`lockstep_refund`) are in lockstep between keepers that are. Sending and clearing keep
them related (`Doubles.record`, `Doubles.clear`), and they agree on what is committed
(`Doubles.hasCommitment_eq`), though their packets have different destinations.
-/

set_option autoImplicit false

namespace Interchain

/-- Whether a denomination is from this chain: it neither is a voucher nor reads as the path of
one. -/
structure Denom.IsNative (d : Denom) : Prop where
  unhashed : d.isVoucher = false
  plain : d.isPlain = true

/-- Whether a message is one that both keepers send: over the one channel, with something of a
token of this chain, and to someone. -/
structure TransferMessage.Fits (source : Hop) (m : TransferMessage) : Prop where
  port : m.sourcePort = source.port
  channel : m.sourceChannel = source.channel
  positive : m.token.amount ≠ 0
  receiver : Text.isBlank m.receiver = false
  native : m.token.denom.IsNative

/-- What comes of the token may be sent instead of it. -/
theorem TransferMessage.Fits.withToken {source : Hop} {m : TransferMessage} (h : m.Fits source)
    {d : Denom} {a : Amount} (hnative : d.IsNative) (hpositive : a ≠ 0) :
    Fits source { m with token := ⟨d, a⟩ } where
  port := h.port
  channel := h.channel
  positive := hpositive
  receiver := h.receiver
  native := hnative

namespace RecordingKeeper

variable {source remote : Hop} {m : TransferMessage}

/-- The packet for a message says what the message says. -/
theorem decodeData_packetFor (m : TransferMessage) (n : UInt64) :
    (packetFor m n).decodeData =
      .ok ⟨m.token.denom.text, m.token.amount, m.sender, m.receiver⟩ := by
  have hread : PacketData.ofBytes? (packetFor m n).data =
      some ⟨m.token.denom.text, m.token.amount, m.sender, m.receiver⟩ :=
    PacketData.ofBytes?_toBytes _
  rw [Packet.decodeData, hread]

theorem sequence_record (k : RecordingKeeper) (m : TransferMessage) :
    (k.record m).sequence = k.sequence + 1 := by
  rw [sequence, sequence, record, List.length_append, List.length_singleton, UInt64.ofNat_add]
  rfl

/-- Whether a packet is for a message that fits. -/
def Posts (source : Hop) (p : Packet) : Prop :=
  ∃ m : TransferMessage, m.Fits source ∧ p = packetFor m p.sequence

theorem Posts.sourceChannel {p : Packet} (h : Posts source p) :
    p.sourceChannel = source.channel := by
  obtain ⟨m, hm, hp⟩ := h
  rw [hp]
  exact hm.channel

/-- Packets are told apart without their destinations, since they go back where they come from. -/
theorem Posts.eq_of_redirect {p q : Packet} (hp : Posts source p) (hq : Posts source q)
    (h : p.redirect remote = q.redirect remote) : p = q := by
  obtain ⟨m, hm, hp⟩ := hp
  obtain ⟨n, hn, hq⟩ := hq
  have hport : p.destinationPort = q.destinationPort := by
    rw [hp, hq]
    exact hm.port.trans hn.port.symm
  have hchannel : p.destinationChannel = q.destinationChannel := by
    rw [hp, hq]
    exact hm.channel.trans hn.channel.symm
  cases p
  cases q
  simp only [Packet.redirect, Packet.mk.injEq] at h hport hchannel ⊢
  simp [h, hport, hchannel]

/-- How the keepers are related after the packets under the numbers `settled` were settled. -/
structure Doubles (source remote : Hop) (settled : List UInt64) (k : RecordingKeeper)
    (l : ChannelKeeper) : Prop where
  willing : k.failNextSend = none
  enabled : l.sendEnabled = true
  bound : l.port = source.port
  opened : l.channels.get? source.channel = some remote
  next : l.sequenceOf source.channel = k.sequence + 1
  recorded : ∀ n p, k.commitments.get? n = some p → p.sequence = n ∧ Posts source p
  committed : ∀ n, l.commitments.get? ⟨source.channel, n⟩ =
    (k.commitments.get? n).map (·.redirect remote)
  cleared : k.cleared = settled

/-- A fresh recording keeper is related to a keeper with nothing but a channel. -/
theorem doubles_fresh (source remote : Hop) :
    Doubles source remote [] {}
      (({ port := source.port } : ChannelKeeper).openChannel source.channel remote) where
  willing := rfl
  enabled := rfl
  bound := rfl
  opened := by simp [ChannelKeeper.openChannel, FiniteMap.get?_insert]
  next := by
    rw [ChannelKeeper.sequenceOf, ChannelKeeper.openChannel, FiniteMap.get?_insert]
    simp [sequence]
  recorded n p h := by cases h
  committed n := rfl
  cleared := rfl

namespace Doubles

variable {settled : List UInt64} {k : RecordingKeeper} {l : ChannelKeeper}

/-! ## Sending -/

/-- The keepers commit the same packet but for its destination. -/
theorem outgoing_eq (h : Doubles source remote settled k l) (hm : m.Fits source) :
    l.outgoing m remote m.token.denom.text =
      (packetFor m (k.record m).sequence).redirect remote := by
  rw [sequence_record, ← h.next, ← hm.channel]
  rfl

/-- **Sending a message keeps the keepers related.** -/
theorem record (h : Doubles source remote settled k l) (hm : m.Fits source) :
    Doubles source remote settled (k.record m)
      (l.commit (l.outgoing m remote m.token.denom.text)) where
  willing := h.willing
  enabled := h.enabled
  bound := h.bound
  opened := h.opened
  next := by
    rw [sequence_record, ← h.next, ← hm.channel]
    simp [ChannelKeeper.sequenceOf, ChannelKeeper.commit, ChannelKeeper.outgoing,
      FiniteMap.get?_insert]
  recorded n p hp := by
    rcases FiniteMap.get?_insert_eq_some_iff.1 hp with ⟨rfl, rfl⟩ | ⟨-, hp⟩
    · exact ⟨rfl, m, hm, rfl⟩
    · exact h.recorded n p hp
  committed n := by
    show (l.commitments.insert (l.outgoing m remote m.token.denom.text).key _).get? _ =
      Option.map _ ((k.commitments.insert (k.record m).sequence _).get? n)
    rw [h.outgoing_eq hm, FiniteMap.get?_insert, FiniteMap.get?_insert]
    have hkey : ((packetFor m (k.record m).sequence).redirect remote).key =
        ⟨source.channel, (k.record m).sequence⟩ :=
      congrArg (PacketKey.mk · _) hm.channel
    rw [hkey]
    -- the new packet stands under its own number, and any other where it stood
    by_cases hn : n = (k.record m).sequence
    · rw [hn, if_pos rfl, if_pos rfl]
      rfl
    · rw [if_neg hn, if_neg fun hsame => hn (congrArg PacketKey.sequence hsame)]
      exact h.committed n
  cleared := h.cleared

/-! ## Settling -/

/-- **The keepers agree on what is committed as it was sent.** -/
theorem hasCommitment_eq (h : Doubles source remote settled k l) {p : Packet}
    (hp : Posts source p) : k.hasCommitment p = l.hasCommitment (p.redirect remote) := by
  have hkey : (p.redirect remote).key = ⟨source.channel, p.sequence⟩ :=
    congrArg (PacketKey.mk · _) hp.sourceChannel
  rw [hasCommitment, ChannelKeeper.hasCommitment, hkey, h.committed, decide_eq_decide]
  constructor
  · intro hfind
    rw [hfind]
    rfl
  · intro hfind
    -- what is committed is for a message that fits, too
    obtain ⟨q, hq, hredirect⟩ := Option.map_eq_some_iff.1 hfind
    rw [hq, (h.recorded _ q hq).2.eq_of_redirect hp hredirect]

/-- **Forgetting a commitment keeps the keepers related.** -/
theorem clear (h : Doubles source remote settled k l) {p : Packet} (hp : Posts source p)
    (hcommitted : k.hasCommitment p = true) :
    Doubles source remote (settled ++ [p.sequence]) (k.clearCommitment p)
      (l.deleteCommitment (p.redirect remote).key) := by
  have hcontains : k.commitments.contains p.sequence = true := by
    rw [FiniteMap.contains, of_decide_eq_true hcommitted]
    rfl
  have hkey : (p.redirect remote).key = ⟨source.channel, p.sequence⟩ :=
    congrArg (PacketKey.mk · _) hp.sourceChannel
  rw [clearCommitment, if_pos hcontains, hkey]
  exact {
    willing := h.willing
    enabled := h.enabled
    bound := h.bound
    opened := h.opened
    next := h.next
    recorded := fun n q hq => h.recorded n q (FiniteMap.get?_erase_eq_some_iff.1 hq).2
    committed := by
      intro n
      show (l.commitments.erase _).get? _ = Option.map _ ((k.commitments.erase _).get? n)
      rw [FiniteMap.get?_erase, FiniteMap.get?_erase]
      by_cases hn : n = p.sequence
      · rw [if_pos hn, if_pos (congrArg _ hn)]
        rfl
      · rw [if_neg hn, if_neg fun hsame => hn (congrArg PacketKey.sequence hsame)]
        exact h.committed n
    cleared := by
      show k.cleared ++ [p.sequence] = settled ++ [p.sequence]
      rw [h.cleared] }

end Doubles

/-! ## Lockstep -/

variable {β : Type} [Ledger β] {settled : List UInt64}

/-- What the keeper of channels does for a message that fits when its token is in escrow. -/
def ship (l : ChannelKeeper) (remote : Hop) (m : TransferMessage) :
    Action ChannelKeeper β TransferResponse := do
  modify fun s => { s with keeper := s.keeper.commit (l.outgoing m remote m.token.denom.text) }
  Action.emit "ibc_transfer" [
    ("sender", m.sender),
    ("receiver", m.receiver),
    ("denom", m.token.denom.text),
    ("amount", toString m.token.amount)]
  return ⟨l.sequenceOf m.sourceChannel⟩

/-- A message that fits passes every check of the keeper of channels but that of its sender, and
its token goes into escrow. -/
theorem send_of_fits {k : RecordingKeeper} {t : Stage ChannelKeeper β}
    (h : Doubles source remote settled k t.keeper) (hm : m.Fits source) :
    ChannelKeeper.send m t = (do
      let sender ← Action.parsed (Address.parse m.sender)
      Action.onLedger (Ledger.send sender (.escrow m.sourcePort m.sourceChannel) m.token)
      ship t.keeper remote m : Action ChannelKeeper β TransferResponse) t := by
  have hopened : t.keeper.channels.get? m.sourceChannel = some remote := by
    rw [hm.channel, h.opened]
  have hpath : t.keeper.fullPath m.token.denom = .ok m.token.denom.text := by
    rw [ChannelKeeper.fullPath, hm.native.unhashed]
    rfl
  have hport : m.sourcePort = t.keeper.port := by
    rw [hm.port, h.bound]
  have hzero : m.token.isZero = false := by
    simpa [Coin.isZero] using hm.positive
  have hside : senderIsSource ⟨m.sourcePort, m.sourceChannel⟩ m.token.denom.text = true :=
    senderIsSource_of_plain hm.native.plain
  have hget : ∀ f : Stage ChannelKeeper β → Action ChannelKeeper β TransferResponse,
      (get >>= f) t = f t t := fun _ => rfl
  -- the checks are passed one after the other
  rw [ChannelKeeper.send, hget, if_neg (by simp [h.enabled]), if_neg (by simp [hport]), hopened]
  dsimp only
  rw [if_neg (by simp [hzero]), if_neg (by simp [hm.receiver]), hpath]
  refine congrFun (congrArg (Action.parsed (Address.parse m.sender) >>= ·) ?_) t
  funext sender
  show ChannelKeeper.takeOut _ m.token.denom.text sender m.token >>= _ = _
  rw [ChannelKeeper.takeOut, if_pos hside]
  rfl

/-- What the recording keeper does for it then. -/
def enlist (m : TransferMessage) : Action RecordingKeeper β TransferResponse := do
  match (← get).keeper.failNextSend with
  | some reason =>
      modify fun s => { s with keeper := { s.keeper with failNextSend := none } }
      throw (.invalidPacketData reason)
  | none =>
      modify fun s => { s with keeper := s.keeper.record m }
      return ⟨(← get).keeper.sequence⟩

omit [Ledger β] in
theorem lockstep_enlist {k : RecordingKeeper} {l : ChannelKeeper}
    (h : Doubles source remote settled k l) (hm : m.Fits source) :
    Lockstep (β := β) (Pinned k l) (Doubles source remote settled) (Pinned k l) (enlist m)
      (ship l remote m) := by
  rintro s t ⟨rfl, rfl⟩ hledgers
  have hsequence : (s.keeper.record m).sequence = t.keeper.sequenceOf m.sourceChannel := by
    rw [sequence_record, hm.channel, h.next]
  have henlisted : enlist m s = .ok ⟨t.keeper.sequenceOf m.sourceChannel⟩
      { s with keeper := s.keeper.record m } := by
    rw [enlist, Action.get_bind_eq_ok_iff, h.willing, ← hsequence]
    rfl
  rw [henlisted]
  exact .ok _ (h.record hm) hledgers

/-- **Both keepers do the same with a message that fits.** -/
theorem lockstep_send (hm : m.Fits source) :
    Lockstep (β := β) (Doubles source remote settled) (Doubles source remote settled)
      (Doubles source remote settled) (Transport.send m) (Transport.send m) := by
  intro s t h hledgers
  have hsame : Lockstep (β := β) (Pinned s.keeper t.keeper) (Doubles source remote settled)
      (Pinned s.keeper t.keeper) (RecordingKeeper.send m) (do
        let sender ← Action.parsed (Address.parse m.sender)
        Action.onLedger (Ledger.send sender (.escrow m.sourcePort m.sourceChannel) m.token)
        ship t.keeper remote m) := by
    refine .parsed_bind fun sender _ => ?_
    refine .bind (.onLedger _) fun _ => ?_
    exact lockstep_enlist h hm
  have hresult := hsame s t ⟨rfl, rfl⟩ hledgers
  rw [← send_of_fits h hm] at hresult
  refine hresult.mono (fun _ _ h => h) ?_
  rintro _ _ ⟨rfl, rfl⟩
  exact h

/-- **Both keepers do the same with a packet that failed** if it carries a token of this chain. -/
theorem lockstep_refund {E : RecordingKeeper → ChannelKeeper → Prop} {p : Packet}
    {data : PacketData} {d : Denom} (hdata : data.denom = d.text) (hnative : d.IsNative) :
    Lockstep (β := β) E E E (Transport.refund p data)
      (Transport.refund (p.redirect remote) data) := by
  have hlocal : (Trace.parse data.denom).localDenom = .ok d := by
    rw [hdata]
    exact Trace.localDenom_of_plain hnative.plain
  have hside : senderIsSource (p.redirect remote).source data.denom = true := by
    rw [hdata]
    exact senderIsSource_of_plain hnative.plain
  show Lockstep E E E (RecordingKeeper.refund p data)
    (ChannelKeeper.refund (p.redirect remote) data)
  refine .parsed_bind fun sender _ => ?_
  rw [coinOf, hlocal, hside]
  exact .bind (.onLedger _) fun _ => .pure _

end RecordingKeeper

end Interchain
