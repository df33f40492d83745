import Interchain.Proofs.FiniteMap
import Interchain.Proofs.Transport.Channels

/-!
# Committed packets

What sending and settling do to the packets that are committed and to the numbers of the next
packets. A keeper agrees with its books (`Books`) if the number of the next packet on a channel is
one more than the number of packets sent on it, and what is committed is what was sent and not
settled; `Books.commit` and `Books.settle` say how the books go on.
-/

set_option autoImplicit false

namespace Interchain

/-- Whether the keeper is that of a chain on which nothing was ever sent or received. -/
structure ChannelKeeper.Fresh (k : ChannelKeeper) : Prop where
  channels : k.channels = ∅
  nextSequence : k.nextSequence = ∅
  traces : k.traces = ∅
  commitments : k.commitments = ∅

namespace ChannelKeeper

/-! ## Commitments and numbers -/

theorem hasCommitment_iff {k : ChannelKeeper} {p : Packet} :
    k.hasCommitment p = true ↔ k.commitments.get? p.key = some p := by
  simp [hasCommitment]

theorem hasCommitment_commit {k : ChannelKeeper} {sent p : Packet} :
    (k.commit sent).hasCommitment p = true ↔
      if p.key = sent.key then p = sent else k.hasCommitment p = true := by
  rw [hasCommitment_iff, commit, FiniteMap.get?_insert]
  by_cases h : p.key = sent.key
  · simp [h, eq_comm]
  · simp [h, hasCommitment_iff]

theorem hasCommitment_deleteCommitment {k : ChannelKeeper} {key : PacketKey} {p : Packet} :
    (k.deleteCommitment key).hasCommitment p = true ↔
      p.key ≠ key ∧ k.hasCommitment p = true := by
  rw [hasCommitment_iff, hasCommitment_iff]
  exact FiniteMap.get?_erase_eq_some_iff

theorem sequenceOf_commit {k : ChannelKeeper} {sent : Packet} {channel : Channel} :
    (k.commit sent).sequenceOf channel =
      if channel = sent.sourceChannel then sent.sequence + 1 else k.sequenceOf channel := by
  rw [sequenceOf, commit, FiniteMap.get?_insert, sequenceOf]
  by_cases h : channel = sent.sourceChannel
  · simp [h]
  · simp [h]

/-- Opening a channel, again or for the first time, keeps its numbers. -/
theorem sequenceOf_openChannel {k : ChannelKeeper} {opened channel : Channel} {remote : Hop} :
    (k.openChannel opened remote).sequenceOf channel = k.sequenceOf channel := by
  rw [sequenceOf, openChannel, FiniteMap.get?_insert, sequenceOf]
  by_cases h : channel = opened
  · simp [h]
  · simp [h]

/-- What arrives touches the traces only. -/
theorem afterArrival_eq (k : ChannelKeeper) (packet : Packet) (path : String) (denom : Denom) :
    ∃ traces, k.afterArrival packet path denom = { k with traces := traces } := by
  rw [afterArrival, learn]
  split
  · exact ⟨k.traces, rfl⟩
  · split
    · exact ⟨k.traces, rfl⟩
    · exact ⟨_, rfl⟩

@[simp]
theorem commitments_afterArrival (k : ChannelKeeper) (packet : Packet) (path : String)
    (denom : Denom) : (k.afterArrival packet path denom).commitments = k.commitments := by
  obtain ⟨traces, h⟩ := k.afterArrival_eq packet path denom
  rw [h]

/-- Whether every packet is committed under its own key. -/
def Filed (k : ChannelKeeper) : Prop :=
  ∀ key p, k.commitments.get? key = some p → key = p.key

theorem filed_of_fresh {k : ChannelKeeper} (h : k.Fresh) : k.Filed := by
  intro key p hp
  rw [h.commitments] at hp
  cases hp

theorem Filed.congr {k l : ChannelKeeper} (hk : k.Filed) (h : l.commitments = k.commitments) :
    l.Filed := by
  intro key p hp
  rw [h] at hp
  exact hk key p hp

theorem Filed.commit {k : ChannelKeeper} (hk : k.Filed) (packet : Packet) :
    (k.commit packet).Filed := by
  intro key p hp
  rcases FiniteMap.get?_insert_eq_some_iff.1 hp with ⟨hkey, rfl⟩ | ⟨-, hp⟩
  · exact hkey
  · exact hk key p hp

theorem Filed.deleteCommitment {k : ChannelKeeper} (hk : k.Filed) (key : PacketKey) :
    (k.deleteCommitment key).Filed := by
  intro l p hp
  exact hk l p (FiniteMap.get?_erase_eq_some_iff.1 hp).2

/-! ## Books -/

/-- Whether the keeper agrees with what was sent, how often on each channel, and what was
settled. -/
structure Books (k : ChannelKeeper) (count : Channel → Nat) (sent settled : List Packet) :
    Prop where
  next : ∀ channel, (k.sequenceOf channel).toNat = count channel + 1
  numbered : ∀ p ∈ sent, p.sequence.toNat ≤ count p.sourceChannel
  settledSent : ∀ p ∈ settled, p ∈ sent
  once : (settled.map Packet.key).Nodup
  committed : ∀ p, k.hasCommitment p = true ↔ p ∈ sent ∧ p.key ∉ settled.map Packet.key

variable {k l : ChannelKeeper} {count : Channel → Nat} {sent settled : List Packet}

theorem books_of_fresh (h : k.Fresh) : k.Books (fun _ => 0) [] [] where
  next channel := by simp [sequenceOf, h.nextSequence]
  numbered p hp := nomatch hp
  settledSent p hp := nomatch hp
  once := .nil
  committed p := by simp [hasCommitment_iff, h.commitments]

/-- Only commitments and numbers are in the books. -/
theorem Books.congr (h : k.Books count sent settled)
    (hsequence : ∀ channel, l.sequenceOf channel = k.sequenceOf channel)
    (hcommitments : l.commitments = k.commitments) : l.Books count sent settled where
  next channel := by rw [hsequence, h.next]
  numbered := h.numbered
  settledSent := h.settledSent
  once := h.once
  committed p := by rw [← h.committed, hasCommitment_iff, hasCommitment_iff, hcommitments]

theorem Books.afterArrival (h : k.Books count sent settled) (packet : Packet) (path : String)
    (denom : Denom) : (k.afterArrival packet path denom).Books count sent settled := by
  obtain ⟨traces, hk⟩ := afterArrival_eq k packet path denom
  rw [hk]
  exact h.congr (fun _ => rfl) rfl

/-- No packet that was sent has the number of the next one. -/
theorem Books.key_ne (h : k.Books count sent settled) {p packet : Packet} (hp : p ∈ sent)
    (hpacket : packet.sequence = k.sequenceOf packet.sourceChannel) : p.key ≠ packet.key := by
  intro hkey
  have hchannel : p.sourceChannel = packet.sourceChannel := congrArg PacketKey.channel hkey
  have hsequence : p.sequence = packet.sequence := congrArg PacketKey.sequence hkey
  have hle := h.numbered p hp
  have hnext := h.next packet.sourceChannel
  rw [hsequence, hpacket, hchannel] at hle
  omega

/-- So nothing is committed under its key. -/
theorem Books.free (h : k.Books count sent settled) (hk : k.Filed) {packet : Packet}
    (hpacket : packet.sequence = k.sequenceOf packet.sourceChannel) :
    k.commitments.get? packet.key = none := by
  cases hget : k.commitments.get? packet.key with
  | none => rfl
  | some p =>
      have hkey := hk _ p hget
      rw [hkey, ← hasCommitment_iff] at hget
      exact absurd hkey.symm (h.key_ne ((h.committed p).1 hget).1 hpacket)

/-- The books after a packet was sent, as long as there are numbers left. -/
theorem Books.commit (h : k.Books count sent settled) {packet : Packet}
    (hpacket : packet.sequence = k.sequenceOf packet.sourceChannel)
    (hroom : count packet.sourceChannel + 1 < UInt64.size - 1) :
    (k.commit packet).Books
      (fun channel => count channel + if channel = packet.sourceChannel then 1 else 0)
      (sent ++ [packet]) settled := by
  have hnext := h.next packet.sourceChannel
  refine ⟨?_, ?_, ?_, h.once, ?_⟩
  · -- the channel goes on to its next number, and no other does
    intro channel
    rw [sequenceOf_commit]
    by_cases hc : channel = packet.sourceChannel
    · subst hc
      have hsize : UInt64.size = 18446744073709551616 := rfl
      have hsum : count packet.sourceChannel + 1 + 1 < UInt64.size := by omega
      rw [if_pos rfl, if_pos rfl, hpacket, UInt64.toNat_add, hnext, UInt64.toNat_one]
      exact Nat.mod_eq_of_lt hsum
    · simp [hc, h.next]
  · -- the new packet has the last number of its channel
    intro p hp
    rcases List.mem_append.1 hp with hp | hp
    · have hle := h.numbered p hp
      omega
    · cases List.mem_singleton.1 hp
      rw [hpacket, hnext]
      simp
  · intro p hp
    exact List.mem_append_left _ (h.settledSent p hp)
  · -- under its key stands the new packet, under any other key what stood there
    intro p
    rw [hasCommitment_commit]
    by_cases hkey : p.key = packet.key
    · have hnew : ∀ q ∈ sent, q.key ≠ p.key := fun q hq => hkey ▸ h.key_ne hq hpacket
      have hopen : p.key ∉ settled.map Packet.key := by
        intro hmem
        obtain ⟨q, hq, hqp⟩ := List.mem_map.1 hmem
        exact hnew q (h.settledSent q hq) hqp
      have hold : p ∉ sent := fun hp => hnew p hp rfl
      simp [hkey, hold, hkey ▸ hopen]
    · have hne : p ≠ packet := fun hp => hkey (hp ▸ rfl)
      simp [hkey, hne, h.committed]

/-- The books after a packet was settled. -/
theorem Books.settle (h : k.Books count sent settled) {packet : Packet}
    (hcommitted : k.hasCommitment packet = true) :
    (k.deleteCommitment packet.key).Books count sent (settled ++ [packet]) := by
  obtain ⟨hsent, hopen⟩ := (h.committed packet).1 hcommitted
  refine ⟨h.next, h.numbered, ?_, ?_, ?_⟩
  · intro p hp
    rcases List.mem_append.1 hp with hp | hp
    · exact h.settledSent p hp
    · cases List.mem_singleton.1 hp
      exact hsent
  · -- the packet was committed, so its key was not settled before
    rw [List.map_append, List.nodup_append]
    refine ⟨h.once, by simp, ?_⟩
    rintro key hkey _ hlast rfl
    rw [List.map_singleton, List.mem_singleton] at hlast
    exact hopen (hlast ▸ hkey)
  · intro p
    rw [hasCommitment_deleteCommitment, h.committed]
    simp only [List.map_append, List.map_singleton, List.mem_append, List.mem_singleton, not_or]
    constructor
    · rintro ⟨hne, hp, hunsettled⟩
      exact ⟨hp, hunsettled, hne⟩
    · rintro ⟨hp, hunsettled, hne⟩
      exact ⟨hne, hp, hunsettled⟩

end ChannelKeeper

end Interchain
