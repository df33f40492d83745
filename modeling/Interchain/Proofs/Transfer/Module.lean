import Interchain.Proofs.Form.Packets
import Interchain.Proofs.Transfer.Conversion
import Interchain.Proofs.Transport.Channels
import Interchain.Transfer.Module

/-!
# What the transfer module does

The operations of the module over the keeper of channels, each by the journal that it posts:
`transfer_eq_ok`, `receive_eq_ok` and `refund_eq_ok` say what a success leaves behind. An
operation that fails leaves the stage as it was (`transfer_eq_error`, `refund_eq_error`); only a
packet that cannot be credited may leave its trace in the keeper (`receive_eq_error`).
-/

set_option autoImplicit false

namespace Interchain

open Interchain.Action Ledger

/-! ## Sending -/

/-- The packet for a message says what its data say. -/
theorem ChannelKeeper.decodeData_outgoing (k : ChannelKeeper) (m : TransferMessage) (remote : Hop)
    (path : String) : (k.outgoing m remote path).decodeData = .ok (dataOf m path) := by
  have hread : PacketData.ofBytes? (k.outgoing m remote path).data = some (dataOf m path) :=
    PacketData.ofBytes?_toBytes _
  rw [Packet.decodeData, hread]

/-- A token on its way out. -/
structure Shipment where
  sender : Address
  /-- The other end of the channel. -/
  remote : Hop
  path : String
  token : Coin
  /-- What was converted into the token, if it was converted. -/
  deducted : Option Coin

namespace Shipment

/-- The message that the keeper gets to see. -/
def inner (sh : Shipment) (message : TransferMessage) : TransferMessage :=
  { message with token := sh.token }

/-- The packet that is committed. -/
def packet (sh : Shipment) (k : ChannelKeeper) (message : TransferMessage) : Packet :=
  k.outgoing (sh.inner message) sh.remote sh.path

/-- What the packet says. -/
def data (sh : Shipment) (message : TransferMessage) : PacketData :=
  ChannelKeeper.dataOf (sh.inner message) sh.path

theorem decodeData_packet (sh : Shipment) (k : ChannelKeeper) (message : TransferMessage) :
    (sh.packet k message).decodeData = .ok (sh.data message) :=
  ChannelKeeper.decodeData_outgoing k _ _ _

/-- The postings of the conversion, if there is one. -/
def preparation (sh : Shipment) : Journal :=
  match sh.deducted with
  | none => []
  | some deducted => Outbound.conversion sh.sender deducted sh.token

/-- All postings. -/
def journal (sh : Shipment) (message : TransferMessage) : Journal :=
  sh.preparation ++ ChannelKeeper.departure ⟨message.sourcePort, message.sourceChannel⟩ sh.path
    sh.sender sh.token

/-- All reports. -/
def report (sh : Shipment) (message : TransferMessage) : EventLog :=
  match sh.deducted with
  | none => [ChannelKeeper.sendReport (sh.inner message) sh.path]
  | some deducted =>
      [Outbound.report deducted sh.token, ChannelKeeper.sendReport (sh.inner message) sh.path]

/-- Whether the token leaves as it is or as its counterpart, as the registry says. -/
inductive Carries (r : Registry) (entry : Entry) (token : Coin) (sh : Shipment) : Prop where
  | literal (passes : Outbound.Passes r entry) (literal : sh.token = token)
      (kept : sh.deducted = none)
  | converted (converts : Outbound.Converts r entry)
      (counterpart : Denom.parse (r.entry entry.counterparty).denom = .ok sh.token.denom)
      (amount : sh.token.amount = (token.amount.reduce (Outbound.excess r entry)).converted)
      (positive : sh.token.amount ≠ 0)
      (deducted : sh.deducted =
        some ⟨token.denom, (token.amount.reduce (Outbound.excess r entry)).deducted⟩)

/-- A token that has to be converted leaves as its counterpart, without the decimals that this
lacks. -/
theorem Carries.of_converts {r : Registry} {entry : Entry} {token : Coin} {sh : Shipment}
    (h : sh.Carries r entry token) (hconverts : Outbound.Converts r entry) :
    Denom.parse (r.entry entry.counterparty).denom = .ok sh.token.denom ∧
      sh.token.amount = (token.amount.reduce (Outbound.excess r entry)).converted ∧
      sh.deducted =
        some ⟨token.denom, (token.amount.reduce (Outbound.excess r entry)).deducted⟩ := by
  cases h with
  | literal hpasses _ _ =>
      -- what leaves as it is has no counterpart with less decimals
      have hle := (hpasses hconverts.named).2
      exact absurd hconverts.lower (UInt32.not_lt.2 hle)
  | converted _ hcounterpart hamount _ hdeducted => exact ⟨hcounterpart, hamount, hdeducted⟩

end Shipment

namespace TransferModule

/-- Whether the module lets a message out as a shipment. -/
structure Ships (m : TransferModule) (k : ChannelKeeper) (message : TransferMessage)
    (sh : Shipment) : Prop where
  enabled : m.params.sendEnabled = true
  port : message.sourcePort = m.params.port
  permitted : m.params.requireExport = true →
    (m.registry.entry message.token.denom.text).permits [.ibcExport] = true
  carries : sh.Carries m.registry (m.registry.entry message.token.denom.text) message.token
  admits : k.Admits (sh.inner message) sh.remote sh.sender sh.path

variable {β : Type} [Ledger β] {m : TransferModule}
  {s t : Stage ChannelKeeper β}

/-- **What a transfer does.** -/
theorem transfer_eq_ok [LawfulLedger β] {message : TransferMessage} {response : TransferResponse}
    (h : m.transfer message s = .ok response t) :
    ∃ sh : Shipment, m.Ships s.keeper message sh ∧
      Journal.post (view s.ledger) (sh.journal message) = .ok (view t.ledger) ∧
      response = ⟨s.keeper.sequenceOf message.sourceChannel⟩ ∧
      t.keeper = s.keeper.commit (sh.packet s.keeper message) ∧
      t.events = s.events ++ sh.report message := by
  rw [transfer, Outbound.transfer] at h
  simp only [guard_eq_ok_iff, atomically_eq_ok_iff, Outbound.sendAs_eq_ok_iff] at h
  obtain ⟨henabled, hport, hpermitted, u, hsent, rfl⟩ := h
  have henabled : m.params.sendEnabled = true := by simpa using henabled
  have hport : message.sourcePort = m.params.port := by simpa using hport
  have hpermitted : m.params.requireExport = true →
      (m.registry.entry message.token.denom.text).permits [.ibcExport] = true := by
    simpa using hpermitted
  rcases hsent with ⟨hpasses, hsend⟩ | ⟨hconverts, hconvert⟩
  · obtain ⟨remote, sender, path, hadmits, b, hpost, rfl, rfl⟩ :=
      ChannelKeeper.send_eq_ok_iff.1 hsend
    -- the token leaves as it is
    refine ⟨⟨sender, remote, path, message.token, none⟩, ?_, ?_, rfl, rfl, rfl⟩
    · exact ⟨henabled, hport, hpermitted, .literal hpasses rfl rfl, hadmits⟩
    · exact Journal.post_view_of_branch hpost
  · obtain ⟨sender, hsender, denom, hdenom, hpositive, b, hpost, hsend⟩ :=
      Outbound.convertAndSend_eq_ok_iff.1 hconvert
    obtain ⟨remote, sender', path, hadmits, c, hpost', rfl, rfl⟩ :=
      ChannelKeeper.send_eq_ok_iff.1 hsend
    cases Except.ok.inj (hsender.symm.trans hadmits.sender)
    -- the token leaves as its counterpart, behind the postings of the conversion
    refine ⟨⟨sender, remote, path, ⟨denom, _⟩, some ⟨message.token.denom, _⟩⟩, ?_, ?_, rfl, rfl,
      rfl⟩
    · exact ⟨henabled, hport, hpermitted, .converted hconverts hdenom rfl hpositive rfl, hadmits⟩
    · exact Journal.post_view_of_branch (Journal.post_append_eq_ok_iff.2 ⟨b, hpost, hpost'⟩)

/-- A transfer goes through if its postings do. -/
theorem exists_transfer [LawfulLedger β] {message : TransferMessage} {sh : Shipment}
    (hships : m.Ships s.keeper message sh) {v : LedgerView}
    (hpost : Journal.post (view s.ledger) (sh.journal message) = .ok v) :
    ∃ t, m.transfer message s = .ok ⟨s.keeper.sequenceOf message.sourceChannel⟩ t ∧
      view t.ledger = v ∧ t.keeper = s.keeper.commit (sh.packet s.keeper message) ∧
      t.events = s.events ++ sh.report message := by
  obtain ⟨b, hb, rfl⟩ := Journal.exists_branch_of_view hpost
  obtain ⟨c, hprepare, hdepart⟩ := Journal.post_append_eq_ok_iff.1 hb
  obtain ⟨henabled, hport, hpermitted, hcarries, hadmits⟩ := hships
  obtain ⟨sender, remote, path, token, deducted⟩ := sh
  -- what is left to show is that the token is sent from the branch
  suffices hsent : ∃ u, Outbound.sendAs m.registry (m.registry.entry message.token.denom.text)
      message (⟨s.keeper, .start s.ledger, []⟩ : Stage ChannelKeeper (Branch β)) =
        .ok ⟨s.keeper.sequenceOf message.sourceChannel⟩ u ∧ u.ledger = b ∧
      u.keeper = s.keeper.commit
        (Shipment.packet ⟨sender, remote, path, token, deducted⟩ s.keeper message) ∧
      u.events = Shipment.report ⟨sender, remote, path, token, deducted⟩ message by
    obtain ⟨u, hsent, hledger, hkeeper, hevents⟩ := hsent
    refine ⟨⟨u.keeper, u.ledger.commit, s.events ++ u.events⟩, ?_, ?_, hkeeper, ?_⟩
    · rw [transfer, Outbound.transfer]
      simp only [guard_eq_ok_iff, atomically_eq_ok_iff]
      exact ⟨by simp [henabled], by simp [hport], by simpa using hpermitted, u, hsent, rfl⟩
    · rw [hledger]
    · rw [hevents]
  have hsend : ∀ log, ChannelKeeper.send
      (Shipment.inner ⟨sender, remote, path, token, deducted⟩ message)
      (⟨s.keeper, c, log⟩ : Stage ChannelKeeper (Branch β)) = .ok _ _ := fun log =>
    ChannelKeeper.send_eq_ok_iff.2 ⟨remote, sender, path, hadmits, b, hdepart, rfl, rfl⟩
  cases hcarries with
  | literal hpasses hliteral hkept =>
      cases hliteral
      cases hkept
      cases hprepare
      exact ⟨_, Outbound.sendAs_eq_ok_iff.2 (.inl ⟨hpasses, hsend []⟩), rfl, rfl, rfl⟩
  | converted hconverts hcounterpart hamount hpositive hdeducted =>
      obtain ⟨denom, amount⟩ := token
      cases hamount
      cases hdeducted
      exact ⟨_, Outbound.sendAs_eq_ok_iff.2 (.inr ⟨hconverts, Outbound.convertAndSend_eq_ok_iff.2
        ⟨sender, hadmits.sender, denom, hcounterpart, hpositive, c, hprepare, hsend _⟩⟩),
        rfl, rfl, rfl⟩

/-- A transfer that is refused leaves everything as it was. -/
theorem transfer_eq_error {message : TransferMessage} {e : TransferError}
    (h : m.transfer message s = .error e t) : t = s := by
  rw [transfer, Outbound.transfer] at h
  simp only [guard_eq_error_iff, atomically_eq_error_iff] at h
  rcases h with ⟨-, -, rfl⟩ | ⟨-, ⟨-, -, rfl⟩ | ⟨-, ⟨-, -, rfl⟩ | ⟨-, u, hsent, rfl⟩⟩⟩
  · rfl
  · rfl
  · rfl
  · have hkeeper := Outbound.keeper_of_sendAs_error ChannelKeeper.keeper_of_send_error hsent
    rw [hkeeper]

/-! ## Receiving -/

/-- Whether the module credits a packet with `data` to `receiver`, as `coin` before any
conversion. -/
structure Credits (m : TransferModule) (k : ChannelKeeper) (packet : Packet) (data : PacketData)
    (receiver : Address) (coin : Coin) : Prop where
  enabled : m.params.receiveEnabled = true ∧ k.receiveEnabled = true
  decoded : packet.decodeData = .ok data
  positive : data.amount ≠ 0
  receiver : Address.parse data.receiver = .ok receiver
  denom : (ChannelKeeper.arrivalTrace packet data.denom).localDenom = .ok coin.denom
  amount : coin.amount = data.amount
  permitted : m.params.requireImport = true →
    (m.registry.entry coin.denom.text).permits [.ibcImport] = true

/-- The postings of a packet that is credited. -/
def creditJournal (m : TransferModule) (packet : Packet) (path : String) (receiver : Address)
    (coin : Coin) : Journal :=
  ChannelKeeper.arrival packet path receiver coin ++
    Plan.journalOf (Plan.resolve m.registry coin.denom) receiver coin.amount

/-- The report of a conversion on the way in. -/
def convertReport (plan? : Option Plan) (receiver : Address) (a : Amount) : EventLog :=
  match plan? with
  | none => []
  | some p =>
      let e := p.exchange a
      [⟨"convert_received", [("module", transferModule), ("receiver", receiver.text),
        ("convert_amount", toString e.burned.amount), ("convert_denom", e.burned.denom.text),
        ("amount", toString e.released.amount), ("denom", e.released.denom.text)]⟩]

theorem convertReceived_eq_ok {data : PacketData} {receiver : Address} {coin credited : Coin}
    (hreceiver : Address.parse data.receiver = .ok receiver)
    (h : m.convertReceived data coin s = .ok credited t) :
    ∃ b, Journal.post s.ledger
        (Plan.journalOf (Plan.resolve m.registry coin.denom) receiver coin.amount) = .ok b ∧
      t = ⟨s.keeper, b, s.events ++
        convertReport (Plan.resolve m.registry coin.denom) receiver coin.amount⟩ := by
  rw [convertReceived] at h
  cases hplan : Plan.resolve m.registry coin.denom with
  | none =>
      rw [hplan] at h
      obtain ⟨-, rfl⟩ := pure_eq_ok_iff.1 h
      exact ⟨_, rfl, by simp [convertReport]⟩
  | some p =>
      simp only [hplan, bind_eq_ok_iff, parsed_eq_ok_iff, Plan.execute_eq_ok_iff, emit_eq_ok_iff,
        pure_eq_ok_iff] at h
      obtain ⟨_, _, ⟨hparse, rfl⟩, _, _, ⟨rfl, b, hb, rfl⟩, -, _, rfl, -, rfl⟩ := h
      cases Except.ok.inj (hreceiver.symm.trans hparse)
      exact ⟨b, hb, rfl⟩

theorem exists_convertReceived {data : PacketData} {receiver : Address} {coin : Coin} {b : β}
    {k : ChannelKeeper} {c : β} {log : EventLog}
    (hreceiver : Address.parse data.receiver = .ok receiver)
    (hpost : Journal.post b
      (Plan.journalOf (Plan.resolve m.registry coin.denom) receiver coin.amount) = .ok c) :
    ∃ credited t, m.convertReceived data coin (⟨k, b, log⟩ : Stage ChannelKeeper β) =
      .ok credited t := by
  rw [convertReceived]
  cases hplan : Plan.resolve m.registry coin.denom with
  | none => exact ⟨coin, _, rfl⟩
  | some p =>
      rw [hplan] at hpost
      simp only [bind_eq_ok_iff, parsed_eq_ok_iff, Plan.execute_eq_ok_iff, emit_eq_ok_iff,
        pure_eq_ok_iff]
      exact ⟨_, _, receiver, _, ⟨hreceiver, rfl⟩, _, _, ⟨rfl, c, hpost, rfl⟩, (), _, rfl, rfl, rfl⟩

theorem keeper_of_convertReceived_ok {data : PacketData} {coin credited : Coin}
    (h : m.convertReceived data coin s = .ok credited t) : t.keeper = s.keeper := by
  rw [convertReceived] at h
  cases hplan : Plan.resolve m.registry coin.denom with
  | none =>
      rw [hplan] at h
      obtain ⟨-, rfl⟩ := pure_eq_ok_iff.1 h
      rfl
  | some p =>
      simp only [hplan, bind_eq_ok_iff, parsed_eq_ok_iff, Plan.execute_eq_ok_iff, emit_eq_ok_iff,
        pure_eq_ok_iff] at h
      obtain ⟨_, _, ⟨-, rfl⟩, _, _, ⟨-, b, -, rfl⟩, -, _, rfl, -, rfl⟩ := h
      rfl

theorem keeper_of_convertReceived_error {data : PacketData} {coin : Coin} {e : TransferError}
    (h : m.convertReceived data coin s = .error e t) : t.keeper = s.keeper := by
  rw [convertReceived] at h
  cases hplan : Plan.resolve m.registry coin.denom with
  | none =>
      rw [hplan] at h
      exact (pure_eq_error_iff.1 h).elim
  | some p =>
      simp only [hplan, bind_eq_error_iff, parsed_eq_error_iff, parsed_eq_ok_iff,
        emit_eq_error_iff, pure_eq_error_iff, and_false, exists_false, or_false] at h
      rcases h with ⟨_, -, -, rfl⟩ | ⟨_, _, ⟨-, rfl⟩, hexecute⟩
      · rfl
      · exact Plan.keeper_of_execute_error hexecute

/-- **What crediting a packet does.** -/
theorem receive_eq_ok [LawfulLedger β] {packet : Packet} {credited : Coin}
    (h : m.receive packet s = .ok credited t) :
    ∃ data receiver coin, m.Credits s.keeper packet data receiver coin ∧
      Journal.post (view s.ledger) (m.creditJournal packet data.denom receiver coin) =
        .ok (view t.ledger) ∧
      t.keeper = s.keeper.afterArrival packet data.denom coin.denom ∧
      t.events = s.events ++ (s.keeper.arrivalReport packet data.denom coin.denom ++
        [ChannelKeeper.receiveReport data] ++
        convertReport (Plan.resolve m.registry coin.denom) receiver coin.amount) := by
  unfold receive credit at h
  simp only [guard_eq_ok_iff, bind_eq_ok_iff, ofExcept_eq_ok_iff, atomically_eq_ok_iff] at h
  obtain ⟨henabled, data, _, ⟨hdata, rfl⟩, u, ⟨coin, w, hreceive, hpermitted, hconvert⟩, rfl⟩ := h
  obtain ⟨hkeeper, hpositive, receiver, hreceiver, hdenom, hamount, b, hpost, rfl⟩ :=
    ChannelKeeper.receive_eq_ok_iff.1 hreceive
  obtain ⟨c, hpost', rfl⟩ := convertReceived_eq_ok hreceiver hconvert
  refine ⟨data, receiver, coin, ?_, ?_, rfl, ?_⟩
  · exact {
      enabled := ⟨by simpa using henabled, hkeeper⟩
      decoded := hdata
      positive := hpositive
      receiver := hreceiver
      denom := hdenom
      amount := hamount
      permitted := by simpa using hpermitted }
  · exact Journal.post_view_of_branch (Journal.post_append_eq_ok_iff.2 ⟨b, hpost, hpost'⟩)
  · simp

/-- A packet is credited if its postings go through. -/
theorem exists_receive [LawfulLedger β] {packet : Packet} {data : PacketData}
    {receiver : Address} {coin : Coin} (hcredits : m.Credits s.keeper packet data receiver coin)
    {v : LedgerView}
    (hpost : Journal.post (view s.ledger) (m.creditJournal packet data.denom receiver coin) =
      .ok v) : ∃ credited t, m.receive packet s = .ok credited t := by
  -- what goes through on the view goes through on a branch
  obtain ⟨b, hb, -⟩ := Journal.exists_branch_of_view hpost
  obtain ⟨c, hc, hconversion⟩ := Journal.post_append_eq_ok_iff.1 hb
  have hreceive := ChannelKeeper.receive_eq_ok_iff
    (s := (⟨s.keeper, .start s.ledger, []⟩ : Stage ChannelKeeper (Branch β))).2
    ⟨hcredits.enabled.2, hcredits.positive, receiver, hcredits.receiver, hcredits.denom,
      hcredits.amount, c, hc, rfl⟩
  obtain ⟨credited, t, hconvert⟩ := exists_convertReceived (m := m) hcredits.receiver hconversion
  unfold receive credit
  simp only [guard_eq_ok_iff, bind_eq_ok_iff, ofExcept_eq_ok_iff, atomically_eq_ok_iff]
  refine ⟨credited, _, by simp [hcredits.enabled.1], data, s, ⟨hcredits.decoded, rfl⟩, t, ?_, rfl⟩
  refine ⟨coin, _, hreceive, ?_, hconvert⟩
  simpa using hcredits.permitted

/-- Whether a packet gets so far that the keeper keeps the trace of its token. -/
structure Introduces (m : TransferModule) (k : ChannelKeeper) (packet : Packet)
    (data : PacketData) : Prop where
  enabled : m.params.receiveEnabled = true
  decoded : packet.decodeData = .ok data
  traced : k.Introduces packet data

/-- What becomes of a keeper when the module is given a packet. -/
structure Learns (m : TransferModule) (k : ChannelKeeper) (packet : Packet) (l : ChannelKeeper) :
    Prop where
  introduced : ∀ data, m.Introduces k packet data → l =
    k.learn (ChannelKeeper.voucherOf packet data.denom)
      (ChannelKeeper.arrivalTrace packet data.denom)
  kept : (∀ data, ¬ m.Introduces k packet data) → l = k

/-- Nothing is learned but the trace of the token that came in. -/
theorem Learns.eq_or_arrived {k l : ChannelKeeper} {packet : Packet} (h : m.Learns k packet l) :
    l = k ∨ ∃ data denom, packet.decodeData = .ok data ∧
      (ChannelKeeper.arrivalTrace packet data.denom).localDenom = .ok denom ∧
      l = k.afterArrival packet data.denom denom := by
  by_cases hintro : ∃ data, m.Introduces k packet data
  · obtain ⟨data, hintro⟩ := hintro
    have hforeign := hintro.traced.foreign
    refine .inr ⟨data, ChannelKeeper.voucherOf packet data.denom, hintro.decoded, ?_, ?_⟩
    · exact ChannelKeeper.localDenom_arrivalTrace hforeign
    · rw [h.introduced data hintro, ChannelKeeper.afterArrival, hforeign,
        if_neg Bool.false_ne_true]
  · exact .inl (h.kept fun data hdata => hintro ⟨data, hdata⟩)

/-- What the keeper learns of a packet that is read, the module does. -/
theorem learns_of_decoded {k l : ChannelKeeper} {packet : Packet} {data : PacketData}
    (henabled : m.params.receiveEnabled = true) (hdata : packet.decodeData = .ok data)
    (h : k.Learns packet data l) : m.Learns k packet l where
  introduced data' hintro := by
    cases Except.ok.inj (hdata.symm.trans hintro.decoded)
    exact h.introduced hintro.traced
  kept hno := h.kept fun htraced => hno data ⟨henabled, hdata, htraced⟩

theorem learns_of_receive_ok {packet : Packet} {credited : Coin}
    (h : m.receive packet s = .ok credited t) : m.Learns s.keeper packet t.keeper := by
  unfold receive credit at h
  simp only [guard_eq_ok_iff, bind_eq_ok_iff, ofExcept_eq_ok_iff, atomically_eq_ok_iff] at h
  obtain ⟨henabled, data, _, ⟨hdata, rfl⟩, u, ⟨coin, w, hreceive, -, hconvert⟩, rfl⟩ := h
  have hlearns := ChannelKeeper.learns_of_receive_ok hreceive
  rw [← keeper_of_convertReceived_ok hconvert] at hlearns
  exact learns_of_decoded (by simpa using henabled) hdata hlearns

/-- **A packet that is not credited leaves ledger and log as they were, and in the keeper its
trace if it got so far.** -/
theorem receive_eq_error {packet : Packet} {e : TransferError}
    (h : m.receive packet s = .error e t) :
    t.ledger = s.ledger ∧ t.events = s.events ∧ m.Learns s.keeper packet t.keeper := by
  unfold receive credit at h
  simp only [guard_eq_error_iff, bind_eq_error_iff, ofExcept_eq_error_iff, ofExcept_eq_ok_iff,
    atomically_eq_error_iff] at h
  rcases h with ⟨hdisabled, -, rfl⟩ | ⟨henabled, ⟨hunread, rfl⟩ |
    ⟨data, _, ⟨hdata, rfl⟩, u, hcredit, rfl⟩⟩
  · refine ⟨rfl, rfl, fun _ hintro => ?_, fun _ => rfl⟩
    simp [hintro.enabled] at hdisabled
  · refine ⟨rfl, rfl, fun _ hintro => ?_, fun _ => rfl⟩
    cases hunread.symm.trans hintro.decoded
  refine ⟨rfl, rfl, learns_of_decoded (by simpa using henabled) hdata ?_⟩
  rcases hcredit with hreceive | ⟨coin, w, hreceive, hrest⟩
  · -- the keeper failed, or what comes after it
    exact (ChannelKeeper.learns_of_receive_error hreceive :)
  · have hlearns := ChannelKeeper.learns_of_receive_ok hreceive
    rcases hrest with ⟨-, -, rfl⟩ | ⟨-, hconvert⟩
    · exact hlearns
    · rw [← keeper_of_convertReceived_error hconvert] at hlearns
      exact hlearns

/-- The report of a packet that is not credited. -/
def failureReport (e : TransferError) : Event :=
  ⟨"fungible_token_packet",
    [("module", transferModule), ("success", "false"), ("error", e.message)]⟩

/-- Every packet gets an acknowledgement. -/
theorem onPacket_eq_ok_iff {packet : Packet} {ack : Acknowledgement} :
    m.onPacket packet s = .ok ack t ↔
      (∃ credited, m.receive packet s = .ok credited t ∧ ack = .success) ∨
      (∃ e u, m.receive packet s = .error e u ∧ ack = .error e.message ∧
        t = { u with events := u.events ++ [failureReport e] }) := by
  rw [onPacket, EStateM.run]
  cases m.receive packet s with
  | ok credited u => simp [and_comm, eq_comm]
  | error e u =>
      show (emit _ _ >>= fun _ => pure _ : Action ChannelKeeper β Acknowledgement) u = .ok ack t ↔ _
      simp only [bind_eq_ok_iff, emit_eq_ok_iff, pure_eq_ok_iff]
      constructor
      · rintro ⟨-, _, rfl, rfl, rfl⟩
        exact .inr ⟨e, u, rfl, rfl, rfl⟩
      · rintro (⟨_, hok, -⟩ | ⟨e', u', herror, rfl, rfl⟩)
        · cases hok
        · cases herror
          exact ⟨(), _, rfl, rfl, rfl⟩

theorem exists_onPacket (m : TransferModule) (packet : Packet) (s : Stage ChannelKeeper β) :
    ∃ ack t, m.onPacket packet s = .ok ack t := by
  cases hreceive : m.receive packet s with
  | ok credited t => exact ⟨_, t, onPacket_eq_ok_iff.2 (.inl ⟨credited, hreceive, rfl⟩)⟩
  | error e u => exact ⟨_, _, onPacket_eq_ok_iff.2 (.inr ⟨e, u, hreceive, rfl, rfl⟩)⟩

/-! ## Settling -/

/-- The postings of the refund of a failed packet. -/
def refundPostings (m : TransferModule) (packet : Packet) (data : PacketData) (sender : Address)
    (denom : Denom) : Journal :=
  ChannelKeeper.refundJournal packet.source data.denom sender ⟨denom, data.amount⟩ ++
    Plan.journalOf (Reversal.plan? m.registry packet data) sender data.amount

/-- **What a refund does.** -/
theorem refund_eq_ok [LawfulLedger β] {packet : Packet} {data : PacketData} {o : ReversalOutcome}
    (h : m.refund packet data s = .ok o t) :
    ∃ sender denom, Address.parse data.sender = .ok sender ∧
      (Trace.parse data.denom).localDenom = .ok denom ∧
      Journal.post (view s.ledger) (m.refundPostings packet data sender denom) =
        .ok (view t.ledger) ∧
      o = Reversal.outcome (Reversal.plan? m.registry packet data) data.amount ∧
      t.keeper = s.keeper.deleteCommitment packet.key ∧
      t.events = s.events ++
        Reversal.report (Reversal.plan? m.registry packet data) sender data.amount := by
  rw [refund, clearCommitment] at h
  simp only [bind_eq_ok_iff, atomically_eq_ok_iff, modify_eq_ok_iff, pure_eq_ok_iff] at h
  obtain ⟨_, _, ⟨u, ⟨⟨denom, amount⟩, w, hrefund, hreverse⟩, rfl⟩, -, _, rfl, rfl, rfl⟩ := h
  obtain ⟨sender, hsender, hdenom, rfl, b, hpost, rfl⟩ :=
    ChannelKeeper.refund_eq_ok_iff.1 hrefund
  -- the reversal works on the branch that the refund left
  obtain ⟨hpost', ho, hkeeper, hevents⟩ := Reversal.reverse_eq_ok hsender hreverse
  refine ⟨sender, denom, hsender, hdenom, ?_, ho, ?_, ?_⟩
  · refine Journal.post_append_eq_ok_iff.2 ⟨view b, Journal.post_view_of_post hpost, ?_⟩
    rw [hpost', Branch.view_commit]
  · show ChannelKeeper.deleteCommitment u.keeper packet.key = _
    rw [hkeeper]
  · show s.events ++ u.events = _
    rw [hevents]
    rfl

/-- A refund goes through if its postings do. -/
theorem exists_refund {packet : Packet} {data : PacketData} {sender : Address} {denom : Denom}
    {v : LedgerView} (hsender : Address.parse data.sender = .ok sender)
    (hdenom : (Trace.parse data.denom).localDenom = .ok denom)
    (hpost : Journal.post (view s.ledger) (m.refundPostings packet data sender denom) = .ok v) :
    ∃ o t, m.refund packet data s = .ok o t := by
  obtain ⟨w, hw, hv⟩ := Journal.post_append_eq_ok_iff.1 hpost
  obtain ⟨b, hb, hbw⟩ := Journal.exists_post_of_view (b := Branch.start s.ledger) hw
  have hrefund : ChannelKeeper.refund packet data
      (⟨s.keeper, .start s.ledger, []⟩ : Stage ChannelKeeper (Branch β)) =
        .ok ⟨denom, data.amount⟩ ⟨s.keeper, b, []⟩ :=
    ChannelKeeper.refund_eq_ok_iff.2 ⟨sender, hsender, hdenom, rfl, b, hb, rfl⟩
  rw [← hbw] at hv
  obtain ⟨o, u, hreverse⟩ := Reversal.exists_reverse
    (s := (⟨s.keeper, b, []⟩ : Stage ChannelKeeper (Branch β))) hsender hv
  rw [refund, clearCommitment]
  simp only [bind_eq_ok_iff, atomically_eq_ok_iff, modify_eq_ok_iff, pure_eq_ok_iff]
  exact ⟨o, _, o, _, ⟨u, ⟨_, _, hrefund, hreverse⟩, rfl⟩, (), _, rfl, rfl, rfl⟩

/-- A refund that fails leaves everything as it was. -/
theorem refund_eq_error {packet : Packet} {data : PacketData} {e : TransferError}
    (h : m.refund packet data s = .error e t) : t = s := by
  rw [refund, clearCommitment] at h
  simp only [bind_eq_error_iff, atomically_eq_error_iff, modify_eq_error_iff, pure_eq_error_iff,
    and_false, exists_false, or_false] at h
  obtain ⟨u, hwork, rfl⟩ := h
  have hkeeper : u.keeper = s.keeper := by
    rcases hwork with hrefund | ⟨coin, w, hrefund, hreverse⟩
    · exact (ChannelKeeper.keeper_of_refund_error hrefund :)
    · obtain ⟨_, -, -, -, _, -, rfl⟩ := ChannelKeeper.refund_eq_ok_iff.1 hrefund
      exact (Reversal.keeper_of_reverse_error hreverse :)
  rw [hkeeper]

omit [Ledger β] in
theorem requireCommitment_eq_ok_iff {packet : Packet} {u : Unit} :
    requireCommitment packet s = .ok u t ↔ s.keeper.hasCommitment packet = true ∧ t = s := by
  rw [requireCommitment, get_bind_eq_ok_iff, ite_eq_ok_iff, throw_eq_ok_iff, pure_eq_ok_iff]
  show _ ∨ ¬(!s.keeper.hasCommitment packet) = true ∧ _ ↔ _
  simp

omit [Ledger β] in
theorem requireCommitment_eq_error_iff {packet : Packet} {e : TransferError} :
    requireCommitment packet s = .error e t ↔ s.keeper.hasCommitment packet = false ∧
      e = .commitmentNotFound packet.sourceChannel packet.sequence ∧ t = s := by
  rw [requireCommitment,
    get_bind_eq_error_iff, ite_eq_error_iff, throw_eq_error_iff, pure_eq_error_iff]
  show (!s.keeper.hasCommitment packet) = true ∧ _ ∨ _ ↔ _
  simp

/-- The report of a packet that timed out. -/
def timeoutReport (data : PacketData) : Event :=
  ⟨"timeout", [("module", transferModule), ("refund_receiver", data.sender),
    ("refund_denom", data.denom), ("refund_amount", toString data.amount)]⟩

/-- The report of a packet that was acknowledged. -/
def acknowledgeReport (data : PacketData) (ack : Acknowledgement) : Event :=
  ⟨"fungible_token_packet", [("module", transferModule), ("receiver", data.receiver),
    ("denom", data.denom), ("amount", toString data.amount)] ++
    match ack with
    | .result _ => [("success", "true")]
    | .error reason => [("success", "false"), ("error", reason)]⟩

/-- **What a timeout does.** -/
theorem onTimeout_eq_ok_iff {packet : Packet} {o : ReversalOutcome} :
    m.onTimeout packet s = .ok o t ↔
      s.keeper.hasCommitment packet = true ∧ ∃ data, packet.decodeData = .ok data ∧
        ∃ u, m.refund packet data s = .ok o u ∧
          t = { u with events := u.events ++ [timeoutReport data] } := by
  rw [onTimeout]
  simp only [bind_eq_ok_iff, requireCommitment_eq_ok_iff, ofExcept_eq_ok_iff, emit_eq_ok_iff,
    pure_eq_ok_iff]
  constructor
  · rintro ⟨-, _, ⟨hcommitted, rfl⟩, data, _, ⟨hdata, rfl⟩, _, u, hrefund, -, _, rfl, rfl, rfl⟩
    exact ⟨hcommitted, data, hdata, u, hrefund, rfl⟩
  · rintro ⟨hcommitted, data, hdata, u, hrefund, rfl⟩
    exact ⟨(), s, ⟨hcommitted, rfl⟩, data, s, ⟨hdata, rfl⟩, o, u, hrefund, (), _, rfl, rfl, rfl⟩

/-- A timeout that fails leaves everything as it was. -/
theorem onTimeout_eq_error {packet : Packet} {e : TransferError}
    (h : m.onTimeout packet s = .error e t) : t = s := by
  rw [onTimeout] at h
  simp only [bind_eq_error_iff, requireCommitment_eq_error_iff, requireCommitment_eq_ok_iff,
    ofExcept_eq_error_iff, ofExcept_eq_ok_iff, emit_eq_error_iff, pure_eq_error_iff, and_false,
    exists_false, or_false] at h
  rcases h with ⟨-, -, rfl⟩ | ⟨-, _, ⟨-, rfl⟩, ⟨-, rfl⟩ | ⟨_, _, ⟨-, rfl⟩, hrefund⟩⟩
  · rfl
  · rfl
  · exact refund_eq_error hrefund

/-- **What the acknowledgement of a received packet does.** -/
theorem onAcknowledgement_result_eq_ok_iff {packet : Packet} {text : String}
    {o : Option ReversalOutcome} :
    m.onAcknowledgement packet (.result text) s = .ok o t ↔
      s.keeper.hasCommitment packet = true ∧ ∃ data, packet.decodeData = .ok data ∧ o = none ∧
        t = ⟨s.keeper.deleteCommitment packet.key, s.ledger,
          s.events ++ [acknowledgeReport data (.result text)]⟩ := by
  rw [onAcknowledgement, clearCommitment]
  simp only [bind_eq_ok_iff, requireCommitment_eq_ok_iff, ofExcept_eq_ok_iff, modify_eq_ok_iff,
    emit_eq_ok_iff, pure_eq_ok_iff]
  constructor
  · rintro ⟨-, _, ⟨hcommitted, rfl⟩, data, _, ⟨hdata, rfl⟩, -, _, rfl, -, _, rfl, rfl, rfl⟩
    exact ⟨hcommitted, data, hdata, rfl, rfl⟩
  · rintro ⟨hcommitted, data, hdata, rfl, rfl⟩
    exact ⟨(), s, ⟨hcommitted, rfl⟩, data, s, ⟨hdata, rfl⟩, (), _, rfl, (), _, rfl, rfl, rfl⟩

/-- **What the acknowledgement of a failed packet does.** -/
theorem onAcknowledgement_error_eq_ok_iff {packet : Packet} {reason : String}
    {o : Option ReversalOutcome} :
    m.onAcknowledgement packet (.error reason) s = .ok o t ↔
      s.keeper.hasCommitment packet = true ∧ ∃ data, packet.decodeData = .ok data ∧
        ∃ outcome u, m.refund packet data s = .ok outcome u ∧ o = some outcome ∧
          t = { u with events := u.events ++ [acknowledgeReport data (.error reason)] } := by
  rw [onAcknowledgement]
  simp only [bind_eq_ok_iff, requireCommitment_eq_ok_iff, ofExcept_eq_ok_iff, emit_eq_ok_iff,
    pure_eq_ok_iff]
  constructor
  · rintro ⟨-, _, ⟨hcommitted, rfl⟩, data, _, ⟨hdata, rfl⟩, o, u, hrefund, -, _, rfl, rfl, rfl⟩
    exact ⟨hcommitted, data, hdata, o, u, hrefund, rfl, rfl⟩
  · rintro ⟨hcommitted, data, hdata, o, u, hrefund, rfl, rfl⟩
    exact ⟨(), s, ⟨hcommitted, rfl⟩, data, s, ⟨hdata, rfl⟩, o, u, hrefund, (), _, rfl, rfl, rfl⟩

/-- An acknowledgement that fails leaves everything as it was. -/
theorem onAcknowledgement_eq_error {packet : Packet} {ack : Acknowledgement} {e : TransferError}
    (h : m.onAcknowledgement packet ack s = .error e t) : t = s := by
  rw [onAcknowledgement, clearCommitment] at h
  simp only [bind_eq_error_iff, requireCommitment_eq_error_iff, requireCommitment_eq_ok_iff,
    ofExcept_eq_error_iff, ofExcept_eq_ok_iff] at h
  rcases h with ⟨-, -, rfl⟩ | ⟨-, _, ⟨-, rfl⟩, ⟨-, rfl⟩ | ⟨_, _, ⟨-, rfl⟩, hrest⟩⟩
  · rfl
  · rfl
  cases ack with
  | result text =>
      simp only [bind_eq_error_iff, modify_eq_error_iff, emit_eq_error_iff, pure_eq_error_iff,
        and_false, exists_false, or_false] at hrest
  | error reason =>
      simp only [bind_eq_error_iff, emit_eq_error_iff, pure_eq_error_iff, and_false, exists_false,
        or_false] at hrest
      exact refund_eq_error hrest

end TransferModule

end Interchain
