import Interchain.Proofs.Transfer.Counterparts
import Interchain.Proofs.Transfer.Run

/-!
# Refunds take back what was sent

The postings of a refund are the inverse of the postings of the shipment
(`refundPostings_eq_inverse`), as long as the path leads back to the token and the plan of the
reversal takes back the conversion. So a refund, whenever it happens, takes away from every
balance and supply what the shipment added (`refund_takes_back`), and right after the shipment it
does happen (`exists_refund_after`).
-/

set_option autoImplicit false

namespace Interchain

open Ledger

/-- Only the transfer module mints and burns in a shipment. -/
theorem Shipment.permitted_journal {sh : Shipment} {message : TransferMessage}
    {permissions : String → ModulePermissions} (h : permissions transferModule = ⟨true, true⟩) :
    ∀ j ∈ sh.journal message, j.Permitted permissions := by
  intro j hj
  unfold journal preparation Outbound.conversion at hj
  rcases List.mem_append.1 hj with hj | hj
  · cases hdeducted : sh.deducted with
    | none => simp [hdeducted] at hj
    | some deducted =>
        simp only [hdeducted, List.mem_cons, List.not_mem_nil, or_false] at hj
        rcases hj with rfl | rfl | rfl
        · trivial
        · exact h
        · trivial
  · exact ChannelKeeper.permitted_departure h j hj

namespace TransferModule

variable {m : TransferModule}

/-- A shipment that a refund takes back: the path leads to the token, and the plan of the
reversal undoes the preparation. -/
structure Reversible (m : TransferModule) (k : ChannelKeeper) (message : TransferMessage)
    (sh : Shipment) : Prop where
  ships : m.Ships k message sh
  denom : (Trace.parse sh.path).localDenom = .ok sh.token.denom
  undone : Plan.journalOf
    (Reversal.plan? m.registry (sh.packet k message) (sh.data message)) sh.sender
    sh.token.amount = Journal.inverse sh.preparation

/-- **The refund of a shipment is posted as its inverse.** -/
theorem refundPostings_eq_inverse {k : ChannelKeeper} {message : TransferMessage} {sh : Shipment}
    (h : m.Reversible k message sh) :
    m.refundPostings (sh.packet k message) (sh.data message) sh.sender sh.token.denom =
      Journal.inverse (sh.journal message) := by
  rw [refundPostings, Shipment.journal,
    Journal.inverse_append, ← ChannelKeeper.refundJournal_eq_inverse, ← h.undone]
  rfl

variable {β : Type} [Ledger β] {s t u : Stage ChannelKeeper β}

omit [Ledger β] in
/-- What a refund of the packet of a shipment is about. -/
theorem refunds_shipment {k : ChannelKeeper} {message : TransferMessage} {sh : Shipment}
    (h : m.Reversible k message sh) {packet : Packet} {data : PacketData} {sender : Address}
    {denom : Denom} (hpacket : packet = sh.packet k message)
    (hrefunds : Refunds s.keeper packet data sender denom) :
    data = sh.data message ∧ sender = sh.sender ∧ denom = sh.token.denom := by
  subst hpacket
  have hdata := hrefunds.decoded
  rw [Shipment.decodeData_packet] at hdata
  cases hdata
  refine ⟨rfl, ?_, ?_⟩
  · exact Except.ok.inj (hrefunds.sender.symm.trans h.ships.admits.sender)
  · exact Except.ok.inj (hrefunds.denom.symm.trans h.denom)

/-- **A refund takes back the shipment, whenever it happens.** -/
theorem refund_takes_back {k : ChannelKeeper} {message : TransferMessage} {sh : Shipment}
    (h : m.Reversible k message sh) {q : Request} (hq : q.failing = some (sh.packet k message))
    {outcome : Option ReversalOutcome} (hstep : m.Step s q (.settled outcome) t) :
    Journal.post (view s.ledger) (Journal.inverse (sh.journal message)) = .ok (view t.ledger) ∧
      outcome = some (Reversal.outcome
        (Reversal.plan? m.registry (sh.packet k message) (sh.data message)) sh.token.amount) ∧
      t.keeper = s.keeper.deleteCommitment (sh.packet k message).key := by
  cases hstep with
  | @refunded _ packet data sender denom _ hfails hrefunds hposts hkeeper hevents =>
      cases hfails.symm.trans hq
      obtain ⟨rfl, rfl, rfl⟩ := refunds_shipment h rfl hrefunds
      rw [← refundPostings_eq_inverse h]
      exact ⟨hposts, rfl, hkeeper⟩
  | acknowledged hcommitted hdecoded => cases hq

/-- A failed packet is settled if it is committed and its refund goes through. -/
theorem exists_serve_failing {q : Request} {packet : Packet} {data : PacketData}
    {o : ReversalOutcome} (hq : q.failing = some packet)
    (hcommitted : s.keeper.hasCommitment packet = true) (hdecoded : packet.decodeData = .ok data)
    (hrefund : m.refund packet data s = .ok o u) :
    ∃ t, m.serve s q = (.settled (some o), t) := by
  cases q with
  | openChannel channel remote => cases hq
  | transfer message => cases hq
  | receive packet => cases hq
  | acknowledge packet ack =>
      cases ack with
      | result text => cases hq
      | error reason =>
          cases hq
          have hack : m.onAcknowledgement packet (.error reason) s = .ok (some o)
              { u with events := u.events ++ [acknowledgeReport data (.error reason)] } :=
            onAcknowledgement_error_eq_ok_iff.2
              ⟨hcommitted, data, hdecoded, o, u, hrefund, rfl, rfl⟩
          exact ⟨_, by rw [serve, hack]; rfl⟩
  | timeout packet =>
      cases hq
      have htimeout : m.onTimeout packet s = .ok o
          { u with events := u.events ++ [timeoutReport data] } :=
        onTimeout_eq_ok_iff.2 ⟨hcommitted, data, hdecoded, u, hrefund, rfl⟩
      exact ⟨_, by rw [serve, htimeout]; rfl⟩

/-- **Right after the shipment its refund goes through.** -/
theorem exists_refund_after {message : TransferMessage} {sh : Shipment}
    (h : m.Reversible s.keeper message sh)
    (hposts : Journal.post (view s.ledger) (sh.journal message) = .ok (view t.ledger))
    (hkeeper : t.keeper = s.keeper.commit (sh.packet s.keeper message))
    (hpermissions : permissions s.ledger transferModule = ⟨true, true⟩)
    {q : Request} (hq : q.failing = some (sh.packet s.keeper message)) :
    ∃ o u, m.serve t q = (.settled (some o), u) := by
  -- what was just posted can be taken back
  have hback := Journal.post_inverse hposts (sh.permitted_journal hpermissions)
  rw [← refundPostings_eq_inverse h] at hback
  have hsender : Address.parse (sh.data message).sender = .ok sh.sender := h.ships.admits.sender
  have hdenom : (Trace.parse (sh.data message).denom).localDenom = .ok sh.token.denom := h.denom
  obtain ⟨o, u, hrefund⟩ := exists_refund hsender hdenom hback
  have hcommitted : t.keeper.hasCommitment (sh.packet s.keeper message) = true := by
    simp [hkeeper, ChannelKeeper.hasCommitment, ChannelKeeper.commit]
  obtain ⟨w, hw⟩ := exists_serve_failing hq hcommitted (sh.decodeData_packet _ _) hrefund
  exact ⟨o, w, hw⟩

/-! ## Converted shipments -/

/-- Whether the path of a counterpart says what it is: that of a voucher ends with the base that
the voucher is registered with, and a denomination of this chain reads as one. -/
structure Traceable (r : Registry) (k : ChannelKeeper) (t : Denom) : Prop where
  voucher : t.isVoucher = true → ∀ trace, k.traces.get? t = some trace →
    (r.entry t.text).baseDenom = trace.base
  plain : t.isVoucher = false → t.isPlain = true

variable {k : ChannelKeeper} {o d : Denom}

/-- The path of a traceable counterpart leads back to it, and if it returns where it came from,
its base is the registered one. -/
theorem Traceable.path (h : Traceable m.registry k d) (hk : k.Traced) {path : String}
    (hpath : k.fullPath d = .ok path) :
    (Trace.parse path).localDenom = .ok d ∧ ∀ source, senderIsSource source path = false →
      (m.registry.entry d.text).baseDenom = (Trace.parse path).base := by
  cases hvoucher : d.isVoucher with
  | true =>
      refine ⟨ChannelKeeper.localDenom_of_fullPath hk hpath (.inl hvoucher), fun _ _ => ?_⟩
      obtain ⟨trace, hstored, rfl⟩ := ChannelKeeper.exists_trace_of_fullPath hvoucher hpath
      rw [(hk d trace hstored).1, h.voucher hvoucher trace hstored]
  | false =>
      -- a denomination of this chain never returns to another
      have hplain := h.plain hvoucher
      refine ⟨ChannelKeeper.localDenom_of_fullPath hk hpath (.inr hplain), fun source hside => ?_⟩
      rw [ChannelKeeper.eq_text_of_fullPath hvoucher hpath, senderIsSource_of_plain hplain] at hside
      cases hside

/-- What is shipped for a unit: its counterpart, without the decimals that this lacks. -/
theorem Ships.of_counterparts (hr : m.registry.Valid) (hpair : Counterparts m.registry o d)
    {message : TransferMessage} {sh : Shipment} (hships : m.Ships k message sh)
    (ho : message.token.denom = o) :
    sh.token = ⟨d, (message.token.amount.reduce
        (Outbound.excess m.registry (m.registry.entry o.text))).converted⟩ ∧
      sh.deducted = some ⟨o, (message.token.amount.reduce
        (Outbound.excess m.registry (m.registry.entry o.text))).deducted⟩ := by
  subst ho
  obtain ⟨hcounterpart, hamount, hdeducted⟩ := hships.carries.of_converts (hpair.converts hr)
  refine ⟨?_, hdeducted⟩
  obtain ⟨sender, remote, path, ⟨denom, amount⟩, deducted⟩ := sh
  cases Except.ok.inj ((hpair.parse_counterpart hr).symm.trans hcounterpart)
  rw [show amount = _ from hamount]

/-- **The shipment of a converted unit is taken back by its refund.** -/
theorem reversible_of_counterparts (hr : m.registry.Valid) (hpair : Counterparts m.registry o d)
    (hk : k.Traced) (hd : Traceable m.registry k d) {message : TransferMessage} {sh : Shipment}
    (hships : m.Ships k message sh) (ho : message.token.denom = o) :
    m.Reversible k message sh ∧
      Reversal.outcome (Reversal.plan? m.registry (sh.packet k message) (sh.data message))
        sh.token.amount = .reversed
          ⟨d, (message.token.amount.reduce
            (Outbound.excess m.registry (m.registry.entry o.text))).converted⟩
          ⟨o, (message.token.amount.reduce
            (Outbound.excess m.registry (m.registry.entry o.text))).deducted⟩ := by
  obtain ⟨htoken, hdeducted⟩ := Ships.of_counterparts hr hpair hships ho
  have hpath : k.fullPath d = .ok sh.path := by
    have hadmitted := hships.admits.path
    rw [Shipment.inner, htoken] at hadmitted
    exact hadmitted
  -- the path of the packet leads back to the counterpart, and its plan to the unit
  obtain ⟨hlocal, hbase⟩ := hd.path hk hpath
  have hplan : Reversal.plan? m.registry (sh.packet k message) (sh.data message) =
      some ⟨d, o, Outbound.excess m.registry (m.registry.entry o.text)⟩ :=
    hpair.plan?_eq hr hlocal (hbase _)
  refine ⟨⟨hships, ?_, ?_⟩, ?_⟩
  · rw [htoken]
    exact hlocal
  · rw [hplan, Shipment.preparation, hdeducted, htoken]
    rfl
  · rw [hplan, htoken]
    rfl

end TransferModule

/-- Whether the change from `c` to `d` is the opposite of the change from `a` to `b`. -/
structure Ledger.Opposite {β : Type} [Ledger β] (a b c d : β) : Prop where
  balance : ∀ account denom, (balance d account denom : Int) - balance c account denom =
    -((balance b account denom : Int) - balance a account denom)
  supply : ∀ denom, (supply d denom : Int) - supply c denom =
    -((supply b denom : Int) - supply a denom)

/-- A journal and its inverse make opposite changes. -/
theorem Journal.opposite_of_inverse {β : Type} [Ledger β] {a b c d : β} {js : Journal}
    (h : Journal.post (view a) js = .ok (view b))
    (hback : Journal.post (view c) (Journal.inverse js) = .ok (view d)) : Opposite a b c d where
  balance account denom := by
    have hb := Journal.balance_post h account denom
    have hd := Journal.balance_post hback account denom
    rw [Journal.change_inverse] at hd
    simp only [balance_view] at hb hd
    omega
  supply denom := by
    have hb := Journal.supply_post h denom
    have hd := Journal.supply_post hback denom
    rw [Journal.issue_inverse] at hd
    simp only [supply_view] at hb hd
    omega

namespace TransferModule

/-- **A failed conversion is undone.** Let `d` be the counterpart of `o`. If a transfer of `o`
succeeds in a state that a run from a fresh keeper leads to, a packet is committed for it, and
every timeout or error acknowledgement of this packet that succeeds later, whatever was served in
between, changes all balances and supplies by the opposite of what the transfer changed, burns
the counterpart that was minted, gives back the unit that was taken, and forgets the packet.
Right after the transfer it does succeed and restores what the ledger showed before. -/
theorem failed_conversion_undone (m : TransferModule) (hr : m.registry.Valid) {o d : Denom}
    (hpair : Counterparts m.registry o d) (start : Stage ChannelKeeper MemoryLedger)
    (hfresh : start.keeper.Fresh)
    (hpermissions : permissions start.ledger transferModule = ⟨true, true⟩)
    (earlier : List Request) (hd : Traceable m.registry (m.run start earlier).keeper d)
    (message : TransferMessage) (ho : message.token.denom = o) (response : TransferResponse)
    (s : Stage ChannelKeeper MemoryLedger)
    (hsent : m.serve (m.run start earlier) (.transfer message) = (.sent response, s)) :
    let reduction := message.token.amount.reduce
      (Outbound.excess m.registry (m.registry.entry o.text))
    let reversed := ReversalOutcome.reversed ⟨d, reduction.converted⟩ ⟨o, reduction.deducted⟩
    ∃ p, s.keeper.commitments.get? ⟨message.sourceChannel, response.sequence⟩ = some p ∧
      ∀ q : Request, q.failing = some p →
        (∀ between outcome t, m.serve (m.run s between) q = (.settled outcome, t) →
          Opposite (m.run start earlier).ledger s.ledger (m.run s between).ledger t.ledger ∧
            outcome = some reversed ∧ t.keeper.commitments.get? p.key = none) ∧
        ∃ t, m.serve s q = (.settled (some reversed), t) ∧
          view t.ledger = view (m.run start earlier).ledger := by
  have htraced : (m.run start earlier).keeper.Traced :=
    traced_run (ChannelKeeper.traced_of_empty hfresh.traces) earlier
  have hstep := m.step_serve (m.run start earlier) (.transfer message)
  rw [hsent] at hstep
  cases hstep with
  | @sent _ sh _ hships hposts hkeeper hevents =>
      obtain ⟨hreversible, houtcome⟩ :=
        reversible_of_counterparts hr hpair htraced hd hships ho
      have hpermitted : permissions (m.run start earlier).ledger transferModule = ⟨true, true⟩ := by
        rw [permissions_run, hpermissions]
      refine ⟨sh.packet (m.run start earlier).keeper message, ?_, fun q hq => ⟨?_, ?_⟩⟩
      · -- the packet was committed under its number
        rw [hkeeper]
        exact (FiniteMap.get?_insert _ _ _ _).trans (if_pos rfl)
      · -- whenever it fails, the postings of the shipment are taken back
        intro between outcome t hserve
        have hback := m.step_serve (m.run s between) q
        rw [hserve] at hback
        obtain ⟨hposts', hsettled, hkeeper'⟩ := refund_takes_back hreversible hq hback
        refine ⟨Journal.opposite_of_inverse hposts hposts', ?_, ?_⟩
        · rw [hsettled, houtcome]
        · rw [hkeeper', ChannelKeeper.deleteCommitment, FiniteMap.get?_erase, if_pos rfl]
      · -- if it fails at once, nothing can keep them from being taken back
        obtain ⟨settled, t, hserve⟩ :=
          exists_refund_after hreversible hposts hkeeper hpermitted hq
        have hback := m.step_serve s q
        rw [hserve] at hback
        obtain ⟨hposts', hsettled, -⟩ := refund_takes_back hreversible hq hback
        have hbefore := Journal.post_inverse hposts (sh.permitted_journal hpermitted)
        refine ⟨t, ?_, Except.ok.inj (hposts'.symm.trans hbefore)⟩
        rw [hserve, hsettled, houtcome]

/-- The sample message is undone by the timeout of its packet. -/
theorem failed_conversion_undone_sample :
    ∃ p s t, Sample.desk.serve (Sample.desk.run Sample.stage [Sample.opening])
        (.transfer Sample.message) = (.sent ⟨1⟩, s) ∧
      s.keeper.commitments.get? ⟨Sample.channel, 1⟩ = some p ∧
      Sample.desk.serve s (.timeout p) = (.settled (some (.reversed ⟨Sample.xrowan, 12⟩
        ⟨Sample.rowan, 1200000000⟩)), t) ∧
      view t.ledger = view (Sample.desk.run Sample.stage [Sample.opening]).ledger := by
  have hpair : Counterparts Sample.registry Sample.rowan Sample.xrowan :=
    ⟨by decide, by decide, by decide⟩
  have hfresh : Sample.stage.keeper.Fresh := ⟨rfl, rfl, rfl, rfl⟩
  have hd : Traceable Sample.desk.registry
      (Sample.desk.run Sample.stage [Sample.opening]).keeper Sample.xrowan :=
    ⟨fun h => absurd h (by decide), fun _ => by decide +kernel⟩
  have hreply : (Sample.desk.serve (Sample.desk.run Sample.stage [Sample.opening])
      (.transfer Sample.message)).1 = .sent ⟨1⟩ := by
    decide +kernel
  cases hsent : Sample.desk.serve (Sample.desk.run Sample.stage [Sample.opening])
      (.transfer Sample.message) with
  | mk reply s =>
      rw [hsent] at hreply
      cases hreply
      have hreduction : Sample.message.token.amount.reduce (Outbound.excess Sample.desk.registry
          (Sample.desk.registry.entry Sample.rowan.text)) = ⟨1200000000, 12⟩ := by
        decide +kernel
      obtain ⟨p, hp, hfailing⟩ := failed_conversion_undone Sample.desk
        (Registry.valid_ofEntries Sample.ofEntries_entries) hpair Sample.stage hfresh
        (by decide +kernel) [Sample.opening] hd Sample.message rfl ⟨1⟩ s hsent
      obtain ⟨-, t, hserve, hview⟩ := hfailing (.timeout p) rfl
      rw [hreduction] at hserve
      exact ⟨p, s, t, rfl, hp, hserve, hview⟩

end TransferModule

end Interchain
