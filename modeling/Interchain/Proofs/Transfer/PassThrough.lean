import Interchain.Proofs.Transfer.Atomicity
import Interchain.Proofs.Transfer.Recognition

/-!
# Transfers that pass through

A token without a counterpart of less decimals leaves as it is, and the refund of its packet gives
it back as it is. The reversal that follows reads the denomination and the registry alone, so it
cannot tell that nothing was converted. A token that is the counterpart of a unit itself is
therefore exchanged for the unit if it was sent directly, and as long as the module has not kept
enough of the unit the packet stays unsettled. All other tokens come back as they left
(`passed_through`).
-/

set_option autoImplicit false

namespace Interchain

open Ledger

/-- A token that passes through leaves as it is, and nothing is deducted for it. -/
theorem Shipment.Carries.of_passes {r : Registry} {entry : Entry} {token : Coin} {sh : Shipment}
    (h : sh.Carries r entry token) (hpasses : Outbound.Passes r entry) :
    sh.token = token ∧ sh.deducted = none := by
  cases h with
  | literal _ hliteral hkept => exact ⟨hliteral, hkept⟩
  | converted hconverts _ _ _ _ =>
      -- what is converted has a counterpart with less decimals
      have hle := (hpasses hconverts.named).2
      exact absurd hconverts.lower (UInt32.not_lt.2 hle)

/-! ## Packets that are taken for converted ones -/

namespace Reversal

/-- Whether a plan is due for the token of a packet: it leads from the token to the unit whose
counterpart the token is. A voucher that returns has to be registered with the base of its path. -/
structure Recalls (r : Registry) (packet : Packet) (data : PacketData) (p : Plan) : Prop where
  denom : (Trace.parse data.denom).localDenom = .ok p.transport
  pair : Counterparts r p.unit p.transport
  po : p.po = Outbound.excess r (r.entry p.unit.text)
  base : senderIsSource packet.source data.denom = false →
    (r.entry p.transport.text).baseDenom = (Trace.parse data.denom).base

variable {r : Registry} {packet : Packet} {data : PacketData} {p : Plan}

/-- **The plan that is made for a packet is the one that is due.** -/
theorem plan?_eq_some_iff_recalls (hr : r.Valid) :
    plan? r packet data = some p ↔ Recalls r packet data p := by
  constructor
  · intro h
    cases hdenom : (Trace.parse data.denom).localDenom with
    | error fault => simp [plan?, recognize, hdenom] at h
    | ok d =>
        have hresolve := resolve_of_plan? hdenom h
        obtain rfl := Plan.transport_of_resolve hr hresolve
        have hpair := Counterparts.of_resolve hr hresolve
        refine ⟨hdenom, hpair, ?_, baseDenom_of_plan? hdenom h⟩
        rw [Option.some.inj (hresolve.symm.trans (hpair.resolve hr))]
  · rintro ⟨hdenom, hpair, hpo, hbase⟩
    rw [hpair.plan?_eq hr hdenom hbase, ← hpo]

end Reversal

namespace TransferModule

variable {β : Type} [Ledger β] [LawfulLedger β] {m : TransferModule}
  {s t : Stage ChannelKeeper β} {q : Request} {packet : Packet} {data : PacketData}
  {sender : Address} {denom : Denom} {v : LedgerView}

/-! ## Failures of committed packets -/

/-- A refund whose postings go through settles the packet. -/
theorem serve_of_refunds (hq : q.failing = some packet)
    (hrefunds : Refunds s.keeper packet data sender denom)
    (hpost : Journal.post (view s.ledger) (m.refundPostings packet data sender denom) = .ok v) :
    ∃ t, m.serve s q = (.settled (some (Reversal.outcome
      (Reversal.plan? m.registry packet data) data.amount)), t) ∧ view t.ledger = v := by
  obtain ⟨t, hserve, hlanded⟩ := exists_serve_of_covered (.refund hq hrefunds) ⟨v, hpost⟩
  exact ⟨t, hserve, Except.ok.inj (hlanded.ledger.symm.trans hpost)⟩

/-- A refund whose postings do not go through is refused, and nothing changes. -/
theorem refused_of_refunds (hq : q.failing = some packet)
    (hrefunds : Refunds s.keeper packet data sender denom)
    (hpost : ∀ v, Journal.post (view s.ledger) (m.refundPostings packet data sender denom) ≠
      .ok v) : ∃ e, m.serve s q = (.refused e, s) := by
  have hstep := m.step_serve s q
  cases hserve : m.serve s q with
  | mk reply t =>
      rw [hserve] at hstep
      cases hstep with
      | opened channel remote => cases hq
      | sent hships hposts hkeeper hevents => cases hq
      | credited hcredits hposts hkeeper hevents => cases hq
      | rejected hledger hkeeper hevents => cases hq
      | refunded hfails hrefunds' hposts hkeeper hevents =>
          cases hfails.symm.trans hq
          obtain ⟨rfl, rfl, rfl⟩ := hrefunds.unique hrefunds'
          exact (hpost _ hposts).elim
      | acknowledged hcommitted hdecoded => cases hq
      | refused _ e => exact ⟨e, rfl⟩

/-! ## Transfers that pass through -/

/-- What becomes of a packet that took a token as it is, if it fails right after the transfer from
`s` to `t`. -/
structure PassedThrough (m : TransferModule) (s t : Stage ChannelKeeper β) (packet : Packet)
    (data : PacketData) (sender : Address) (token : Coin) : Prop where
  /-- If no plan is due for it, the sender gets the token back, and the ledger is as before. -/
  literal : (∀ p, ¬ Reversal.Recalls m.registry packet data p) →
    ∀ q : Request, q.failing = some packet →
      ∃ u, m.serve t q = (.settled (some .notConverted), u) ∧ view u.ledger = view s.ledger
  /-- If a plan is due and can be executed, the sender gets the unit instead. -/
  exchanged : ∀ p, Reversal.Recalls m.registry packet data p → p.Redeemable s.ledger token.amount →
    ∀ q : Request, q.failing = some packet →
      ∃ u, m.serve t q =
          (.settled (some (.reversed token ⟨p.unit, token.amount.restore p.po⟩)), u) ∧
        Journal.post (view s.ledger) (p.journal sender token.amount) = .ok (view u.ledger)
  /-- If it cannot be executed, the packet is not settled, and nothing changes. -/
  stuck : ∀ p, Reversal.Recalls m.registry packet data p →
    ¬ p.Redeemable s.ledger token.amount →
      ∀ q : Request, q.failing = some packet → ∃ e, m.serve t q = (.refused e, t)

/-- Once the keeper has given back the token, what is left of a refund is the plan that is due. -/
theorem passedThrough_of_refunds (hr : m.registry.Valid)
    (hburner : (permissions s.ledger transferModule).burner = true)
    (hrefunds : Refunds t.keeper packet data sender denom)
    (hback : Journal.post (view t.ledger) (ChannelKeeper.refundJournal packet.source data.denom
      sender ⟨denom, data.amount⟩) = .ok (view s.ledger)) :
    m.PassedThrough s t packet data sender ⟨denom, data.amount⟩ := by
  have hpost : ∀ v, Journal.post (view t.ledger) (m.refundPostings packet data sender denom) =
      .ok v ↔ Journal.post (view s.ledger)
        (Plan.journalOf (Reversal.plan? m.registry packet data) sender data.amount) = .ok v := by
    intro v
    rw [refundPostings, Journal.post_append_eq_ok_iff]
    constructor
    · rintro ⟨w, hw, hv⟩
      rwa [Except.ok.inj (hback.symm.trans hw)]
    · intro hv
      exact ⟨_, hback, hv⟩
  have hdue : ∀ p, Reversal.Recalls m.registry packet data p →
      Reversal.plan? m.registry packet data = some p ∧ denom = p.transport := by
    intro p hp
    refine ⟨(Reversal.plan?_eq_some_iff_recalls hr).2 hp, ?_⟩
    exact Except.ok.inj (hrefunds.denom.symm.trans hp.denom)
  -- whether the plan goes through is decided on the ledger before the transfer
  have hredeem : ∀ p, Reversal.Recalls m.registry packet data p →
      ((∃ v, Journal.post (view s.ledger) (p.journal sender data.amount) = .ok v) ↔
        p.Redeemable s.ledger data.amount) := by
    intro p hp
    obtain ⟨-, rfl⟩ := hdue p hp
    rw [Plan.exists_post_journal_iff (b := view s.ledger) hp.pair.ne hburner]
    constructor
    · rintro ⟨-, hsupplied, hkept⟩
      exact ⟨hsupplied, hkept⟩
    · rintro ⟨hsupplied, hkept⟩
      exact ⟨ChannelKeeper.le_balance_of_refundJournal hback, hsupplied, hkept⟩
  refine ⟨fun hnone q hq => ?_, fun p hp hcan q hq => ?_, fun p hp hcannot q hq => ?_⟩
  · have hplan : Reversal.plan? m.registry packet data = none := by
      rw [Option.eq_none_iff_forall_ne_some]
      intro p hp
      exact hnone p ((Reversal.plan?_eq_some_iff_recalls hr).1 hp)
    obtain ⟨u, hserve, hu⟩ := serve_of_refunds hq hrefunds
      ((hpost (view s.ledger)).2 (by rw [hplan]; rfl))
    rw [hplan] at hserve
    exact ⟨u, hserve, hu⟩
  · obtain ⟨hplan, rfl⟩ := hdue p hp
    obtain ⟨v, hv⟩ := (hredeem p hp).2 hcan
    obtain ⟨u, hserve, rfl⟩ := serve_of_refunds hq hrefunds
      ((hpost v).2 (by rw [hplan]; exact hv))
    rw [hplan] at hserve
    exact ⟨u, hserve, hv⟩
  · obtain ⟨hplan, -⟩ := hdue p hp
    refine refused_of_refunds hq hrefunds fun v hv => hcannot ?_
    rw [hpost, hplan] at hv
    exact (hredeem p hp).1 ⟨v, hv⟩

/-- **What becomes of a transfer that passes through.** Let the registry be made of a list of
entries, let the keeper be reachable, and let the module be permitted to mint and burn. If a
transfer succeeds whose token leaves as it is, and the token is a voucher or reads as a
denomination of this chain, a packet is committed for it. If this packet fails at once, the token
comes back and the ledger shows what it showed before, unless the token is the counterpart of a
unit: then the unit is given out for it, or the packet stays as it is if that is impossible. -/
theorem passed_through (m : TransferModule) {es : List Entry}
    (hr : Registry.ofEntries es = .ok m.registry) (hk : s.keeper.Reachable)
    (hpermissions : permissions s.ledger transferModule = ⟨true, true⟩)
    {message : TransferMessage} {response : TransferResponse}
    (hpasses : Outbound.Passes m.registry (m.registry.entry message.token.denom.text))
    (htoken : (∃ path, message.token.denom = Trace.voucher path) ∨
      message.token.denom.isPlain = true)
    (hsent : m.serve s (.transfer message) = (.sent response, t)) :
    ∃ packet data sender,
      t.keeper.commitments.get? ⟨message.sourceChannel, response.sequence⟩ = some packet ∧
        packet.decodeData = .ok data ∧ Address.parse message.sender = .ok sender ∧
        m.PassedThrough s t packet data sender message.token := by
  have hplain : message.token.denom.isPlain = true := by
    rcases htoken with ⟨path, hvoucher⟩ | hplain
    · rw [hvoucher]
      exact Trace.isPlain_voucher path
    · exact hplain
  have hstep := m.step_serve s (.transfer message)
  rw [hsent] at hstep
  cases hstep with
  | @sent _ sh _ hships hposts hkeeper hevents =>
      obtain ⟨hliteral, hkept⟩ := hships.carries.of_passes hpasses
      refine ⟨sh.packet s.keeper message, sh.data message, sh.sender, ?_,
        sh.decodeData_packet _ _, hships.admits.sender, ?_⟩
      · -- the packet was committed under its number
        rw [hkeeper]
        exact (FiniteMap.get?_insert _ _ _ _).trans (if_pos rfl)
      have hpath := hships.admits.path
      rw [Shipment.inner, hliteral] at hpath
      have hrefunds : Refunds t.keeper (sh.packet s.keeper message) (sh.data message) sh.sender
          message.token.denom := by
        refine ⟨?_, sh.decodeData_packet _ _, hships.admits.sender, ?_⟩
        · rw [hkeeper, ChannelKeeper.hasCommitment_commit, if_pos rfl]
        · exact (ChannelKeeper.localDenom_of_fullPath_iff hk.held hpath).2 hplain
      -- what the departure took from the sender can be taken back
      have hback := Journal.post_inverse hposts (sh.permitted_journal hpermissions)
      rw [Shipment.journal, Shipment.preparation, hkept, List.nil_append, hliteral,
        ← ChannelKeeper.refundJournal_eq_inverse] at hback
      have hamount : (sh.data message).amount = message.token.amount := by
        rw [← hliteral]
        rfl
      have hburner : (permissions s.ledger transferModule).burner = true := by rw [hpermissions]
      have hpassed := passedThrough_of_refunds (s := s) (Registry.valid_ofEntries hr) hburner
        hrefunds (by rw [hamount]; exact hback)
      rwa [hamount] at hpassed

end TransferModule

namespace Sample

/-- A token of this chain that is not registered. -/
def pebble : Denom :=
  ⟨"pebble", by decide⟩

/-- The sample message with another token. -/
def messageWith (token : Coin) : TransferMessage :=
  { message with token }

/-- What the packet says that takes a token as it is. -/
def dataWith (token : Coin) : PacketData :=
  ⟨token.denom.text, token.amount, userText 1, userText 2⟩

/-- The packet that takes a token as it is. -/
def packetWith (token : Coin) : Packet :=
  { packet with data := (dataWith token).toBytes }

theorem decodeData_packetWith (token : Coin) :
    (packetWith token).decodeData = .ok (dataWith token) := by
  have hread : PacketData.ofBytes? (packetWith token).data = some (dataWith token) :=
    PacketData.ofBytes?_toBytes _
  rw [Packet.decodeData, hread]

/-- The stage with a channel and another ledger. -/
def readyWith (ledger : MemoryLedger) : Stage ChannelKeeper MemoryLedger :=
  { ready with ledger }

theorem reachable_readyWith (ledger : MemoryLedger) : (readyWith ledger).keeper.Reachable :=
  reachable_ready

/-- The stage where the first user has the counterpart and another token, and the module has kept
the unit for as much of the counterpart. -/
def pouch : Stage ChannelKeeper MemoryLedger :=
  readyWith (((ready.ledger.fund (user 1) ⟨xrowan, 12⟩).fund custodian ⟨rowan, 1200000000⟩).fund
    (user 1) ⟨pebble, 7⟩)

/-- No plan is due for a token that is not registered. -/
theorem not_recalls_pebble (p : Plan) :
    ¬ Reversal.Recalls registry (packetWith ⟨pebble, 7⟩) (dataWith ⟨pebble, 7⟩) p := by
  rintro ⟨hdenom, hpair, -, -⟩
  have hlocal : (Trace.parse "pebble").localDenom = .ok pebble :=
    Trace.localDenom_of_plain (d := pebble) (by decide +kernel)
  have htransport : pebble = p.transport := Except.ok.inj (hlocal.symm.trans hdenom)
  have hunit := hpair.unit
  rw [← htransport] at hunit
  have hempty := Denom.isEmpty_text p.unit
  rw [← hunit] at hempty
  exact absurd hempty (by decide)

end Sample

namespace TransferModule

/-- A token that is not registered comes back when its packet times out. -/
theorem passed_through_sample :
    ∃ t u, Sample.desk.serve Sample.pouch (.transfer (Sample.messageWith ⟨Sample.pebble, 7⟩)) =
        (.sent ⟨1⟩, t) ∧
      Sample.desk.serve t (.timeout (Sample.packetWith ⟨Sample.pebble, 7⟩)) =
        (.settled (some .notConverted), u) ∧
      view u.ledger = view Sample.pouch.ledger := by
  have hpermissions : permissions Sample.pouch.ledger transferModule = ⟨true, true⟩ := by
    decide +kernel
  have hpasses : Outbound.Passes Sample.desk.registry
      (Sample.desk.registry.entry (Sample.messageWith ⟨Sample.pebble, 7⟩).token.denom.text) := by
    intro hnamed
    exact absurd hnamed (by decide)
  have hplain : (Sample.messageWith ⟨Sample.pebble, 7⟩).token.denom.isPlain = true := by
    decide +kernel
  have hresult :
      (Sample.desk.serve Sample.pouch
        (.transfer (Sample.messageWith ⟨Sample.pebble, 7⟩))).1 = .sent ⟨1⟩ ∧
      (Sample.desk.serve Sample.pouch
        (.transfer (Sample.messageWith ⟨Sample.pebble, 7⟩))).2.keeper.commitments.get?
          ⟨Sample.channel, 1⟩ = some (Sample.packetWith ⟨Sample.pebble, 7⟩) := by
    decide +kernel
  cases hserve : Sample.desk.serve Sample.pouch
      (.transfer (Sample.messageWith ⟨Sample.pebble, 7⟩)) with
  | mk reply t =>
    rw [hserve] at hresult
    obtain ⟨rfl, hpacket⟩ := hresult
    obtain ⟨packet, data, sender, hcommitted, hdecoded, -, hpassed⟩ :=
      passed_through Sample.desk Sample.ofEntries_entries (Sample.reachable_readyWith _)
        hpermissions hpasses (.inr hplain) hserve
    obtain rfl := Option.some.inj (hcommitted.symm.trans hpacket)
    obtain rfl := Except.ok.inj (hdecoded.symm.trans (Sample.decodeData_packetWith _))
    obtain ⟨u, hsettled, hu⟩ := hpassed.literal Sample.not_recalls_pebble (.timeout _) rfl
    exact ⟨t, u, rfl, hsettled, hu⟩

/-- The counterpart comes back as the unit if it was sent directly, although nothing was
converted. -/
theorem passed_counterpart_exchanged :
    ∃ t u, Registry.ofEntries Sample.entries = .ok Sample.desk.registry ∧
      Sample.pouch.keeper.Reachable ∧
      permissions Sample.pouch.ledger transferModule = ⟨true, true⟩ ∧
      Outbound.Passes Sample.registry (Sample.registry.entry Sample.xrowan.text) ∧
      Sample.xrowan.isPlain = true ∧
      Sample.desk.serve Sample.pouch (.transfer (Sample.messageWith ⟨Sample.xrowan, 12⟩)) =
        (.sent ⟨1⟩, t) ∧
      t.keeper.commitments.get? ⟨Sample.channel, 1⟩ = some Sample.packet ∧
      Sample.desk.serve t (.timeout Sample.packet) =
        (.settled (some (.reversed ⟨Sample.xrowan, 12⟩ ⟨Sample.rowan, 1200000000⟩)), u) ∧
      balance u.ledger (Sample.user 1) Sample.xrowan ≠
        balance Sample.pouch.ledger (Sample.user 1) Sample.xrowan := by
  have hpermissions : permissions Sample.pouch.ledger transferModule = ⟨true, true⟩ := by
    decide +kernel
  have hpasses : Outbound.Passes Sample.registry (Sample.registry.entry Sample.xrowan.text) := by
    intro hnamed
    exact absurd hnamed (by decide)
  have hplain : Sample.xrowan.isPlain = true := by
    decide +kernel
  have hsent :
      (Sample.desk.serve Sample.pouch
        (.transfer (Sample.messageWith ⟨Sample.xrowan, 12⟩))).1 = .sent ⟨1⟩ ∧
      (Sample.desk.serve Sample.pouch
        (.transfer (Sample.messageWith ⟨Sample.xrowan, 12⟩))).2.keeper.commitments.get?
          ⟨Sample.channel, 1⟩ = some Sample.packet := by
    decide +kernel
  have hsettled :
      (Sample.desk.serve (Sample.desk.serve Sample.pouch
        (.transfer (Sample.messageWith ⟨Sample.xrowan, 12⟩))).2 (.timeout Sample.packet)).1 =
          .settled (some (.reversed ⟨Sample.xrowan, 12⟩ ⟨Sample.rowan, 1200000000⟩)) := by
    decide +kernel
  have hbalance :
      balance (Sample.desk.serve (Sample.desk.serve Sample.pouch
        (.transfer (Sample.messageWith ⟨Sample.xrowan, 12⟩))).2 (.timeout Sample.packet)).2.ledger
          (Sample.user 1) Sample.xrowan ≠
            balance Sample.pouch.ledger (Sample.user 1) Sample.xrowan := by
    decide +kernel
  cases htransfer : Sample.desk.serve Sample.pouch
      (.transfer (Sample.messageWith ⟨Sample.xrowan, 12⟩)) with
  | mk reply t =>
    rw [htransfer] at hsent hsettled hbalance
    obtain ⟨rfl, hcommitted⟩ := hsent
    cases htimeout : Sample.desk.serve t (.timeout Sample.packet) with
    | mk reply' u =>
      rw [htimeout] at hsettled hbalance
      obtain rfl := hsettled
      exact ⟨t, u, Sample.ofEntries_entries, Sample.reachable_readyWith _, hpermissions, hpasses,
        hplain, rfl, hcommitted, htimeout, hbalance⟩

end TransferModule

end Interchain
