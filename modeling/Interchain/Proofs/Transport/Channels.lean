import Interchain.Proofs.Trace
import Interchain.Proofs.Transfer.Action
import Interchain.Transport.Channels

/-!
# What the keeper of channels does

Each operation of the keeper moves coins by a journal that can be told from its arguments: a token
departs into escrow or is burned, it arrives out of escrow or is minted, and a refund takes the
departure back (`refundJournal_eq_inverse`). The operations are characterised by these journals:
`send_eq_ok_iff`, `receive_eq_ok_iff` and `refund_eq_ok_iff` say when they succeed and what the
stage is then, and `keeper_of_send_error`, `learns_of_receive_error` and `keeper_of_refund_error`
what becomes of the keeper when they fail.
-/

set_option autoImplicit false

namespace Interchain

namespace ChannelKeeper

open Interchain.Action

/-! ## Journals -/

/-- How a token leaves an account: into escrow if it is from this side, else out of existence. -/
def departure (source : Hop) (path : String) (sender : Address) (token : Coin) : Journal :=
  if senderIsSource source path then
    [.pay sender (.escrow source.port source.channel) token]
  else
    [.pay sender custodian token, .burn transferModule token]

/-- How a coin is created for an account. -/
def issuance (account : Address) (coin : Coin) : Journal :=
  [.mint transferModule coin, .pay custodian account coin]

/-- How the coin of a failed packet goes back to its sender. -/
def refundJournal (source : Hop) (path : String) (sender : Address) (coin : Coin) : Journal :=
  if senderIsSource source path then
    [.pay (.escrow source.port source.channel) sender coin]
  else
    issuance sender coin

/-- How the coin of a packet gets to its receiver. -/
def arrival (packet : Packet) (path : String) (receiver : Address) (coin : Coin) : Journal :=
  if receiverIsSource packet.source path then
    [.pay (.escrow packet.destinationPort packet.destinationChannel) receiver coin]
  else
    issuance receiver coin

/-- **A refund takes back the departure.** -/
theorem refundJournal_eq_inverse (source : Hop) (path : String) (sender : Address) (coin : Coin) :
    refundJournal source path sender coin =
      Journal.inverse (departure source path sender coin) := by
  rw [refundJournal, departure]
  by_cases h : senderIsSource source path
  · simp [h, Journal.inverse, Posting.inverse]
  · simp [h, Journal.inverse, Posting.inverse, issuance]

/-- Only the transfer module burns in a departure. -/
theorem permitted_departure {source : Hop} {path : String} {sender : Address} {token : Coin}
    {permissions : String → ModulePermissions} (h : permissions transferModule = ⟨true, true⟩) :
    ∀ j ∈ departure source path sender token, j.Permitted permissions := by
  intro j hj
  rw [departure] at hj
  split at hj
  · cases List.mem_singleton.1 hj
    trivial
  · simp only [List.mem_cons, List.not_mem_nil, or_false] at hj
    rcases hj with rfl | rfl
    · trivial
    · exact h

section Lawful

variable {β : Type} [Ledger β] [LawfulLedger β] {b c : β}

/-- Who is given a coin has it. -/
theorem le_balance_of_issuance {account : Address} {coin : Coin}
    (h : Journal.post b (issuance account coin) = .ok c) :
    coin.amount ≤ Ledger.balance c account coin.denom := by
  obtain ⟨d, -, hc⟩ := Journal.post_cons_eq_ok_iff.1 h
  obtain ⟨e, he, hlast⟩ := Journal.post_cons_eq_ok_iff.1 hc
  cases hlast
  exact Posting.covered_inverse he trivial

/-- A coin can be created for any account if the transfer module may mint. -/
theorem exists_post_issuance (h : (Ledger.permissions b transferModule).minter = true)
    (account : Address) (coin : Coin) : ∃ c, Journal.post b (issuance account coin) = .ok c := by
  obtain ⟨d, hd⟩ := (Posting.exists_post_iff (.mint transferModule coin)).2 h
  -- what was minted is there to be paid
  have hheld : coin.amount ≤ Ledger.balance d custodian coin.denom := by
    have hbalance := Posting.balance_post hd custodian coin.denom
    rw [Posting.change, ofModule_transferModule, Coin.share_self] at hbalance
    apply Int.ofNat_le.1
    omega
  obtain ⟨c, hc⟩ := (Posting.exists_post_iff (.pay custodian account coin)).2 hheld
  exact ⟨c, Journal.post_cons_eq_ok_iff.2 ⟨d, hd, Journal.post_cons_eq_ok_iff.2 ⟨c, hc, rfl⟩⟩⟩

theorem le_balance_of_pay {source target : Address} {coin : Coin}
    (h : Journal.post b [.pay source target coin] = .ok c) :
    coin.amount ≤ Ledger.balance c target coin.denom := by
  obtain ⟨e, he, hlast⟩ := Journal.post_cons_eq_ok_iff.1 h
  cases hlast
  exact Posting.covered_inverse he trivial

theorem le_balance_of_refundJournal {source : Hop} {path : String} {sender : Address}
    {coin : Coin} (h : Journal.post b (refundJournal source path sender coin) = .ok c) :
    coin.amount ≤ Ledger.balance c sender coin.denom := by
  rw [refundJournal] at h
  split at h
  · exact le_balance_of_pay h
  · exact le_balance_of_issuance h

theorem le_balance_of_arrival {packet : Packet} {path : String} {receiver : Address}
    {coin : Coin} (h : Journal.post b (arrival packet path receiver coin) = .ok c) :
    coin.amount ≤ Ledger.balance c receiver coin.denom := by
  rw [arrival] at h
  split at h
  · exact le_balance_of_pay h
  · exact le_balance_of_issuance h

end Lawful

/-- The trace of a token after it arrived. -/
def arrivalTrace (packet : Packet) (path : String) : Trace :=
  if receiverIsSource packet.source path then
    (Trace.parse path).removeHop packet.source
  else
    (Trace.parse path).addHop packet.destination

/-- The keeper that knows a trace under a denomination. -/
def learn (k : ChannelKeeper) (denom : Denom) (trace : Trace) : ChannelKeeper :=
  if k.traces.contains denom then k else { k with traces := k.traces.insert denom trace }

/-- The report of a trace that is seen for the first time. -/
def traceReport (k : ChannelKeeper) (denom : Denom) (trace : Trace) : EventLog :=
  if k.traces.contains denom then []
  else [⟨"denomination_trace", [("trace_hash", denom.text), ("denom", trace.fullPath)]⟩]

/-- The keeper after a token arrived under `denom`. -/
def afterArrival (k : ChannelKeeper) (packet : Packet) (path : String) (denom : Denom) :
    ChannelKeeper :=
  if receiverIsSource packet.source path then k else k.learn denom (arrivalTrace packet path)

/-- What is reported when a token arrives under `denom`. -/
def arrivalReport (k : ChannelKeeper) (packet : Packet) (path : String) (denom : Denom) :
    EventLog :=
  if receiverIsSource packet.source path then []
  else k.traceReport denom (arrivalTrace packet path)

/-! ## Sending -/

/-- What has to hold before a message is sent, with what is read off on the way: the remote end
of the channel, the sender's account and the full path of the token. -/
structure Admits (k : ChannelKeeper) (m : TransferMessage) (remote : Hop) (sender : Address)
    (path : String) : Prop where
  enabled : k.sendEnabled = true
  port : m.sourcePort = k.port
  channel : k.channels.get? m.sourceChannel = some remote
  amount : m.token.amount ≠ 0
  receiver : Text.isBlank m.receiver = false
  sender : Address.parse m.sender = .ok sender
  path : k.fullPath m.token.denom = .ok path

/-- The data of the packet for a message. -/
def dataOf (m : TransferMessage) (path : String) : PacketData :=
  ⟨path, m.token.amount, m.sender, m.receiver⟩

/-- The packet for a message. -/
def outgoing (k : ChannelKeeper) (m : TransferMessage) (remote : Hop) (path : String) :
    Packet where
  sequence := k.sequenceOf m.sourceChannel
  sourcePort := m.sourcePort
  sourceChannel := m.sourceChannel
  destinationPort := remote.port
  destinationChannel := remote.channel
  data := (dataOf m path).toBytes
  timeoutHeight := m.timeoutHeight
  timeoutTimestamp := m.timeoutTimestamp

/-- The report of a message that was sent. -/
def sendReport (m : TransferMessage) (path : String) : Event :=
  ⟨"ibc_transfer", [("sender", m.sender), ("receiver", m.receiver), ("denom", path),
    ("amount", toString m.token.amount)]⟩

variable {β : Type} [Ledger β] {s t : Stage ChannelKeeper β}

theorem takeOut_eq_ok_iff {source : Hop} {path : String} {sender : Address} {token : Coin}
    {u : Unit} :
    takeOut source path sender token s = .ok u t ↔
      ∃ b, Journal.post s.ledger (departure source path sender token) = .ok b ∧
        t = { s with ledger := b } := by
  rw [takeOut, departure]
  by_cases h : senderIsSource source path
  · simp [h, Journal.post_cons_eq_ok_iff, Posting.post, Posting.operation]
  · rw [if_neg h, if_neg h, onLedger_onLedger_eq_ok_iff]
    simp [Journal.post_cons_eq_ok_iff, Posting.post, Posting.operation, Ledger.sendToModule,
      custodian]

theorem mintTo_eq_ok_iff {account : Address} {coin : Coin} {u : Unit} :
    mintTo account coin s = .ok u t ↔
      ∃ b, Journal.post s.ledger (issuance account coin) = .ok b ∧ t = { s with ledger := b } := by
  rw [mintTo, issuance, onLedger_onLedger_eq_ok_iff]
  simp [Journal.post_cons_eq_ok_iff, Posting.post, Posting.operation, Ledger.sendFromModule,
    custodian]

theorem keeper_of_takeOut_error {source : Hop} {path : String} {sender : Address} {token : Coin}
    {e : TransferError} (h : takeOut source path sender token s = .error e t) :
    t.keeper = s.keeper := by
  rw [takeOut] at h
  by_cases hside : senderIsSource source path
  · rw [if_pos hside, onLedger_eq_error_iff] at h
    obtain ⟨_, -, -, rfl⟩ := h
    rfl
  · rw [if_neg hside] at h
    exact keeper_of_onLedger_onLedger_error h

theorem keeper_of_mintTo_error {account : Address} {coin : Coin} {e : TransferError}
    (h : mintTo account coin s = .error e t) : t.keeper = s.keeper :=
  keeper_of_onLedger_onLedger_error h

/-- **When a message is sent, and what that leaves behind.** -/
theorem send_eq_ok_iff {m : TransferMessage} {r : TransferResponse} :
    send m s = .ok r t ↔
      ∃ remote sender path, s.keeper.Admits m remote sender path ∧
        ∃ b, Journal.post s.ledger
            (departure ⟨m.sourcePort, m.sourceChannel⟩ path sender m.token) = .ok b ∧
          r = ⟨s.keeper.sequenceOf m.sourceChannel⟩ ∧
          t = ⟨s.keeper.commit (s.keeper.outgoing m remote path), b,
            s.events ++ [sendReport m path]⟩ := by
  rw [send]
  simp only [get_bind_eq_ok_iff, guard_eq_ok_iff]
  constructor
  · rintro ⟨henabled, hport, h⟩
    cases hchannel : s.keeper.channels.get? m.sourceChannel with
    | none =>
        rw [hchannel] at h
        exact (throw_eq_ok_iff.1 h).elim
    | some remote =>
        simp only [hchannel, bind_eq_ok_iff, guard_eq_ok_iff, parsed_eq_ok_iff,
          ofExcept_eq_ok_iff, takeOut_eq_ok_iff, modify_eq_ok_iff, emit_eq_ok_iff,
          pure_eq_ok_iff, and_assoc, exists_eq_left, exists_and_left] at h
        obtain ⟨hzero, hblank, sender, hsender, path, hpath, -, u, ⟨b, hb, rfl⟩, rfl, -, -,
          rfl⟩ := h
        refine ⟨remote, sender, path, ?_, b, hb, rfl, rfl⟩
        -- what the guards let through is what the message needed
        exact {
          enabled := by simpa using henabled
          port := by simpa using hport
          channel := hchannel
          amount := by simpa [Coin.isZero] using hzero
          receiver := by simpa using hblank
          sender := hsender
          path := hpath }
  · rintro ⟨remote, sender, path, ha, b, hb, rfl, rfl⟩
    refine ⟨by simp [ha.enabled], by simp [ha.port], ?_⟩
    simp only [ha.channel, bind_eq_ok_iff, guard_eq_ok_iff, parsed_eq_ok_iff, ofExcept_eq_ok_iff,
      takeOut_eq_ok_iff, modify_eq_ok_iff, emit_eq_ok_iff, pure_eq_ok_iff, and_assoc,
      exists_eq_left, exists_and_left]
    refine ⟨by simp [Coin.isZero, ha.amount], by simp [ha.receiver], ?_⟩
    exact ⟨sender, ha.sender, path, ha.path, (), _, ⟨b, hb, rfl⟩, trivial, (), (), rfl⟩

/-- A message that is refused leaves the keeper as it was. -/
theorem keeper_of_send_error {m : TransferMessage} {e : TransferError}
    (h : send m s = .error e t) : t.keeper = s.keeper := by
  rw [send] at h
  simp only [get_bind_eq_error_iff, guard_eq_error_iff] at h
  rcases h with ⟨-, -, rfl⟩ | ⟨-, ⟨-, -, rfl⟩ | ⟨-, h⟩⟩
  · rfl
  · rfl
  cases hchannel : s.keeper.channels.get? m.sourceChannel with
  | none =>
      rw [hchannel] at h
      obtain ⟨-, rfl⟩ := throw_eq_error_iff.1 h
      rfl
  | some remote =>
      simp only [hchannel, bind_eq_error_iff, guard_eq_error_iff, parsed_eq_error_iff,
        parsed_eq_ok_iff, ofExcept_eq_error_iff, ofExcept_eq_ok_iff, modify_eq_error_iff,
        emit_eq_error_iff, pure_eq_error_iff, and_false, exists_false, or_false, and_assoc,
        exists_eq_left, exists_and_left] at h
      rcases h with ⟨-, -, rfl⟩ | ⟨-, ⟨-, -, rfl⟩ | ⟨-, ⟨_, -, -, rfl⟩ | ⟨_, -, h⟩⟩⟩
      · rfl
      · rfl
      · rfl
      · rcases h with ⟨-, rfl⟩ | ⟨_, -, h⟩
        · rfl
        · exact keeper_of_takeOut_error h

/-! ## Receiving -/

omit [Ledger β] in
theorem recordTrace_eq_ok_iff {denom : Denom} {trace : Trace} {u : Unit} :
    recordTrace denom trace s = .ok u t ↔
      t = ⟨s.keeper.learn denom trace, s.ledger, s.events ++ s.keeper.traceReport denom trace⟩ := by
  rw [recordTrace, learn, traceReport]
  by_cases h : s.keeper.traces.contains denom
  · simp [h]
  · simp [h]

omit [Ledger β] in
theorem recordTrace_eq_error_iff {denom : Denom} {trace : Trace} {e : TransferError} :
    recordTrace denom trace s = .error e t ↔ False := by
  rw [recordTrace]
  simp

/-- What is reported when a packet is credited. -/
def receiveReport (data : PacketData) : Event :=
  ⟨"fungible_token_packet", [("module", transferModule), ("receiver", data.receiver),
    ("denom", data.denom), ("amount", toString data.amount), ("success", "true")]⟩

theorem bringIn_eq_ok_iff {packet : Packet} {data : PacketData} {receiver : Address}
    {coin : Coin} :
    bringIn packet data receiver s = .ok coin t ↔
      (arrivalTrace packet data.denom).localDenom = .ok coin.denom ∧
        coin.amount = data.amount ∧
        ∃ b, Journal.post s.ledger (arrival packet data.denom receiver coin) = .ok b ∧
          t = ⟨s.keeper.afterArrival packet data.denom coin.denom, b,
            s.events ++ s.keeper.arrivalReport packet data.denom coin.denom⟩ := by
  rw [bringIn, arrivalTrace, arrival, afterArrival, arrivalReport]
  by_cases h : receiverIsSource packet.source data.denom
  · -- a token that comes home is released from escrow
    simp only [h, if_true, bind_eq_ok_iff, parsed_eq_ok_iff, onLedger_eq_ok_iff, pure_eq_ok_iff,
      Journal.post_cons_eq_ok_iff, Posting.post, Posting.operation, Journal.post_nil,
      List.append_nil]
    constructor
    · rintro ⟨denom, _, ⟨hdenom, rfl⟩, -, _, ⟨b, hb, rfl⟩, rfl, rfl⟩
      exact ⟨hdenom, rfl, b, ⟨b, hb, rfl⟩, rfl⟩
    · obtain ⟨denom, amount⟩ := coin
      rintro ⟨hdenom, rfl, b, ⟨c, hc, hb⟩, rfl⟩
      cases hb
      exact ⟨denom, s, ⟨hdenom, rfl⟩, (), _, ⟨b, hc, rfl⟩, rfl, rfl⟩
  · -- a foreign token is minted after its trace was kept
    simp only [if_neg h, bind_eq_ok_iff, parsed_eq_ok_iff, recordTrace_eq_ok_iff,
      mintTo_eq_ok_iff, pure_eq_ok_iff, arrivalTrace]
    constructor
    · rintro ⟨denom, _, ⟨hdenom, rfl⟩, -, _, rfl, -, _, ⟨b, hb, rfl⟩, rfl, rfl⟩
      exact ⟨hdenom, rfl, b, hb, rfl⟩
    · obtain ⟨denom, amount⟩ := coin
      rintro ⟨hdenom, rfl, b, hb, rfl⟩
      exact ⟨denom, s, ⟨hdenom, rfl⟩, (), _, rfl, (), _, ⟨b, hb, rfl⟩, rfl, rfl⟩

/-- **When a packet is credited, and what that leaves behind.** -/
theorem receive_eq_ok_iff {packet : Packet} {data : PacketData} {coin : Coin} :
    receive packet data s = .ok coin t ↔
      s.keeper.receiveEnabled = true ∧ data.amount ≠ 0 ∧
        ∃ receiver, Address.parse data.receiver = .ok receiver ∧
          (arrivalTrace packet data.denom).localDenom = .ok coin.denom ∧
          coin.amount = data.amount ∧
          ∃ b, Journal.post s.ledger (arrival packet data.denom receiver coin) = .ok b ∧
            t = ⟨s.keeper.afterArrival packet data.denom coin.denom, b,
              s.events ++ s.keeper.arrivalReport packet data.denom coin.denom ++
                [receiveReport data]⟩ := by
  rw [receive, get_bind_eq_ok_iff]
  simp only [guard_eq_ok_iff, bind_eq_ok_iff, parsed_eq_ok_iff, bringIn_eq_ok_iff,
    emit_eq_ok_iff, pure_eq_ok_iff]
  constructor
  · rintro ⟨henabled, hamount, receiver, _, ⟨hreceiver, rfl⟩, _, _,
      ⟨hdenom, hcoin, b, hb, rfl⟩, -, _, rfl, rfl, rfl⟩
    exact ⟨by simpa using henabled, hamount, receiver, hreceiver, hdenom, hcoin, b, hb, rfl⟩
  · rintro ⟨henabled, hamount, receiver, hreceiver, hdenom, hcoin, b, hb, rfl⟩
    exact ⟨by simp [henabled], hamount, receiver, s, ⟨hreceiver, rfl⟩, coin, _,
      ⟨hdenom, hcoin, b, hb, rfl⟩, (), _, rfl, rfl, rfl⟩

/-- The voucher that a token from the other side is held under. -/
def voucherOf (packet : Packet) (path : String) : Denom :=
  Trace.voucher (packet.destination.extend path)

/-- Whether a packet gets so far that the trace of its token is kept: the token is from the other
side, and nothing is wrong that shows before the ledger is asked. -/
structure Introduces (k : ChannelKeeper) (packet : Packet) (data : PacketData) : Prop where
  enabled : k.receiveEnabled = true
  positive : data.amount ≠ 0
  receiver : ∃ receiver, Address.parse data.receiver = .ok receiver
  foreign : receiverIsSource packet.source data.denom = false

/-- A token from the other side is held under its voucher. -/
theorem localDenom_arrivalTrace {packet : Packet} {path : String}
    (h : receiverIsSource packet.source path = false) :
    (arrivalTrace packet path).localDenom = .ok (voucherOf packet path) := by
  rw [arrivalTrace, h, if_neg Bool.false_ne_true, Trace.localDenom_of_foreign rfl,
    Trace.fullPath_addHop, Trace.fullPath_parse]
  rfl

/-- What becomes of a keeper that is given a packet, whether the packet is credited or not: the
trace that it introduces is learned. -/
structure Learns (k : ChannelKeeper) (packet : Packet) (data : PacketData) (l : ChannelKeeper) :
    Prop where
  introduced : k.Introduces packet data →
    l = k.learn (voucherOf packet data.denom) (arrivalTrace packet data.denom)
  kept : ¬ k.Introduces packet data → l = k

/-- A token that comes home teaches the keeper nothing. -/
theorem learns_of_home {k : ChannelKeeper} {packet : Packet} {data : PacketData}
    (hside : receiverIsSource packet.source data.denom = true) : k.Learns packet data k where
  introduced h := by simp [h.foreign] at hside
  kept _ := rfl

theorem learns_of_receive_ok {packet : Packet} {data : PacketData} {coin : Coin}
    (h : receive packet data s = .ok coin t) : s.keeper.Learns packet data t.keeper := by
  obtain ⟨henabled, hpositive, receiver, hreceiver, hdenom, -, b, -, rfl⟩ :=
    receive_eq_ok_iff.1 h
  cases hside : receiverIsSource packet.source data.denom with
  | true =>
      rw [afterArrival, if_pos hside]
      exact learns_of_home hside
  | false =>
      have hheld := Except.ok.inj (hdenom.symm.trans (localDenom_arrivalTrace hside))
      refine ⟨fun _ => ?_, fun hno => (hno ?_).elim⟩
      · rw [afterArrival, hside, if_neg Bool.false_ne_true, hheld]
      · exact ⟨henabled, hpositive, ⟨receiver, hreceiver⟩, hside⟩

/-- **A packet that is refused leaves its trace behind if it got so far, and nothing else.** -/
theorem learns_of_receive_error {packet : Packet} {data : PacketData} {e : TransferError}
    (h : receive packet data s = .error e t) : s.keeper.Learns packet data t.keeper := by
  rw [receive, get_bind_eq_error_iff] at h
  simp only [guard_eq_error_iff, bind_eq_error_iff, parsed_eq_error_iff, parsed_eq_ok_iff,
    emit_eq_error_iff, pure_eq_error_iff, and_false, exists_false, or_false] at h
  -- nothing is learned before the receiver is known
  rcases h with ⟨hdisabled, -, rfl⟩ | ⟨henabled, ⟨hzero, -, rfl⟩ | ⟨hpositive,
    ⟨_, hmalformed, -, rfl⟩ | ⟨receiver, _, ⟨hreceiver, rfl⟩, h⟩⟩⟩
  · refine ⟨fun hintro => ?_, fun _ => rfl⟩
    simp [hintro.enabled] at hdisabled
  · exact ⟨fun hintro => (hintro.positive hzero).elim, fun _ => rfl⟩
  · refine ⟨fun hintro => ?_, fun _ => rfl⟩
    obtain ⟨receiver, hreceiver⟩ := hintro.receiver
    cases hmalformed.symm.trans hreceiver
  rw [bringIn] at h
  cases hside : receiverIsSource packet.source data.denom with
  | true =>
      simp only [hside, if_true, bind_eq_error_iff, parsed_eq_error_iff, parsed_eq_ok_iff,
        onLedger_eq_error_iff, pure_eq_error_iff, and_false, exists_false, or_false] at h
      rcases h with ⟨_, -, -, rfl⟩ | ⟨_, _, ⟨-, rfl⟩, _, -, -, rfl⟩
      · exact learns_of_home hside
      · exact learns_of_home hside
  | false =>
      have hlocal := localDenom_arrivalTrace hside
      rw [arrivalTrace, hside, if_neg Bool.false_ne_true] at hlocal
      simp only [hside, Bool.false_eq_true, if_false, hlocal, bind_eq_error_iff,
        parsed_eq_error_iff, parsed_eq_ok_iff, recordTrace_eq_error_iff, recordTrace_eq_ok_iff,
        pure_eq_error_iff, and_false, exists_false, or_false, false_or] at h
      rcases h with ⟨_, hbad, -⟩ | ⟨_, _, ⟨hheld, rfl⟩, -, _, rfl, h⟩
      · cases hbad
      · -- minting was refused after the trace was kept
        cases hheld
        refine ⟨fun _ => ?_, fun hno => (hno ?_).elim⟩
        · rw [arrivalTrace, hside, if_neg Bool.false_ne_true]
          exact keeper_of_mintTo_error h
        · exact ⟨by simpa using henabled, hpositive, ⟨receiver, hreceiver⟩, hside⟩

/-! ## Refunding -/

/-- **When a packet is refunded, and what that leaves behind.** -/
theorem refund_eq_ok_iff {packet : Packet} {data : PacketData} {coin : Coin} :
    refund packet data s = .ok coin t ↔
      ∃ sender, Address.parse data.sender = .ok sender ∧
        (Trace.parse data.denom).localDenom = .ok coin.denom ∧
        coin.amount = data.amount ∧
        ∃ b, Journal.post s.ledger (refundJournal packet.source data.denom sender coin) = .ok b ∧
          t = { s with ledger := b } := by
  unfold refund refundJournal
  by_cases h : senderIsSource packet.source data.denom
  · simp only [h, if_true, bind_eq_ok_iff, parsed_eq_ok_iff, onLedger_eq_ok_iff, pure_eq_ok_iff,
      Journal.post_cons_eq_ok_iff, Posting.post, Posting.operation, Journal.post_nil]
    constructor
    · rintro ⟨sender, _, ⟨hsender, rfl⟩, denom, _, ⟨hdenom, rfl⟩, -, _, ⟨b, hb, rfl⟩, rfl, rfl⟩
      exact ⟨sender, hsender, hdenom, rfl, b, ⟨b, hb, rfl⟩, rfl⟩
    · obtain ⟨denom, amount⟩ := coin
      rintro ⟨sender, hsender, hdenom, rfl, b, ⟨c, hc, hb⟩, rfl⟩
      cases hb
      exact ⟨sender, s, ⟨hsender, rfl⟩, denom, s, ⟨hdenom, rfl⟩, (), _, ⟨b, hc, rfl⟩, rfl, rfl⟩
  · simp only [if_neg h, bind_eq_ok_iff, parsed_eq_ok_iff, mintTo_eq_ok_iff, pure_eq_ok_iff]
    constructor
    · rintro ⟨sender, _, ⟨hsender, rfl⟩, denom, _, ⟨hdenom, rfl⟩, -, _, ⟨b, hb, rfl⟩, rfl, rfl⟩
      exact ⟨sender, hsender, hdenom, rfl, b, hb, rfl⟩
    · obtain ⟨denom, amount⟩ := coin
      rintro ⟨sender, hsender, hdenom, rfl, b, hb, rfl⟩
      exact ⟨sender, s, ⟨hsender, rfl⟩, denom, s, ⟨hdenom, rfl⟩, (), _, ⟨b, hb, rfl⟩, rfl, rfl⟩

/-- A refund leaves the keeper alone. -/
theorem keeper_of_refund_error {packet : Packet} {data : PacketData} {e : TransferError}
    (h : refund packet data s = .error e t) : t.keeper = s.keeper := by
  rw [refund] at h
  simp only [bind_eq_error_iff, parsed_eq_error_iff, parsed_eq_ok_iff] at h
  rcases h with ⟨_, -, -, rfl⟩ | ⟨_, _, ⟨-, rfl⟩, ⟨_, -, -, rfl⟩ | ⟨_, _, ⟨-, rfl⟩, h⟩⟩
  · rfl
  · rfl
  by_cases hside : senderIsSource packet.source data.denom
  · rw [if_pos hside] at h
    simp only [bind_eq_error_iff, onLedger_eq_error_iff, pure_eq_error_iff, and_false,
      exists_false, or_false] at h
    obtain ⟨_, -, -, rfl⟩ := h
    rfl
  · rw [if_neg hside] at h
    simp only [bind_eq_error_iff, pure_eq_error_iff, and_false, exists_false, or_false] at h
    exact keeper_of_mintTo_error h

end ChannelKeeper

end Interchain
