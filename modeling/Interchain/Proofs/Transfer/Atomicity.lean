import Interchain.Proofs.Transfer.Refund
import Interchain.Proofs.Transfer.Settlement

/-!
# Requests land as a whole or not at all

What a request comes to is one effect: postings to the ledger, the keeper that is left, and
reports. Which effect is due for a request is told from the registry and the keeper (`Due`), and
whether it goes through depends on the ledger, which has to cover its postings. A step that is no
refusal lands an effect that is due (`exists_due_of_step`), and an effect that is due and covered
lands (`exists_serve_of_covered`). So a transfer or a callback lands as a whole or changes nothing
(`atomic_serve`), and a callback that is refused may be repeated until the ledger covers it.
-/

set_option autoImplicit false

namespace Interchain

open Ledger

/-- What a request comes to: the postings, the keeper that is left, and the reports. -/
structure Effect where
  journal : Journal
  keeper : ChannelKeeper
  report : EventLog

namespace Effect

variable {β : Type} [Ledger β]

/-- Whether a ledger lets all postings of the effect through. -/
def Covered (w : Effect) (b : β) : Prop :=
  ∃ v, Journal.post (view b) w.journal = .ok v

/-- Whether the effect, and nothing else, took place between two stages. -/
structure Landed (w : Effect) (s t : Stage ChannelKeeper β) : Prop where
  ledger : Journal.post (view s.ledger) w.journal = .ok (view t.ledger)
  keeper : t.keeper = w.keeper
  events : t.events = s.events ++ w.report

end Effect

namespace TransferModule

/-- The effect that is due for a request, with the reply to it. Packets that come in are left
out. -/
inductive Due (m : TransferModule) (k : ChannelKeeper) : Request → Reply → Effect → Prop where
  | opening (channel : Channel) (remote : Hop) :
      Due m k (.openChannel channel remote) .opened ⟨[], k.openChannel channel remote, []⟩
  | shipment {message : TransferMessage} {sh : Shipment} (ships : m.Ships k message sh) :
      Due m k (.transfer message) (.sent ⟨k.sequenceOf message.sourceChannel⟩)
        ⟨sh.journal message, k.commit (sh.packet k message), sh.report message⟩
  | refund {q : Request} {packet : Packet} {data : PacketData} {sender : Address}
      {denom : Denom} (fails : q.failing = some packet)
      (refunds : Refunds k packet data sender denom) :
      Due m k q
        (.settled (some (Reversal.outcome (Reversal.plan? m.registry packet data) data.amount)))
        ⟨m.refundPostings packet data sender denom, k.deleteCommitment packet.key,
          Reversal.report (Reversal.plan? m.registry packet data) sender data.amount ++
            q.closing data⟩
  | clearance {packet : Packet} {text : String} {data : PacketData}
      (committed : k.hasCommitment packet = true) (decoded : packet.decodeData = .ok data) :
      Due m k (.acknowledge packet (.result text)) (.settled none)
        ⟨[], k.deleteCommitment packet.key, [acknowledgeReport data (.result text)]⟩

variable {m : TransferModule} {q : Request} {reply : Reply} {w : Effect}

/-- A packet tells what is refunded for it, and to whom. -/
theorem Refunds.unique {k l : ChannelKeeper} {packet : Packet} {data data' : PacketData}
    {sender sender' : Address} {denom denom' : Denom} (h : Refunds k packet data sender denom)
    (h' : Refunds l packet data' sender' denom') :
    data = data' ∧ sender = sender' ∧ denom = denom' := by
  obtain rfl := Except.ok.inj (h.decoded.symm.trans h'.decoded)
  refine ⟨rfl, ?_, ?_⟩
  · exact Except.ok.inj (h.sender.symm.trans h'.sender)
  · exact Except.ok.inj (h.denom.symm.trans h'.denom)

/-- A refusal is never due. -/
theorem Due.ne_refused {k : ChannelKeeper} (h : m.Due k q reply w) (e : TransferError) :
    reply ≠ .refused e := by
  cases h with
  | opening channel remote => exact Reply.noConfusion
  | shipment hships => exact Reply.noConfusion
  | refund hfails hrefunds => exact Reply.noConfusion
  | clearance hcommitted hdecoded => exact Reply.noConfusion

/-- What is due for a callback is due as long as its packet is committed, whatever else becomes
of the keeper. -/
theorem Due.of_committed {k l : ChannelKeeper} {packet : Packet} (h : m.Due k q reply w)
    (hq : q.settling = some packet) (hl : l.hasCommitment packet = true) :
    m.Due l q reply { w with keeper := l.deleteCommitment packet.key } := by
  cases h with
  | opening channel remote => cases hq
  | shipment hships => cases hq
  | refund hfails hrefunds =>
      cases (Request.settling_of_failing hfails).symm.trans hq
      exact .refund hfails ⟨hl, hrefunds.decoded, hrefunds.sender, hrefunds.denom⟩
  | clearance hcommitted hdecoded =>
      cases hq
      exact .clearance hl hdecoded

variable {β : Type} [Ledger β] {s t : Stage ChannelKeeper β}

/-- **A step that is no refusal lands what is due.** -/
theorem exists_due_of_step (hq : ∀ packet, q ≠ .receive packet) (hstep : m.Step s q reply t)
    (hreply : ∀ e, reply ≠ .refused e) : ∃ w, m.Due s.keeper q reply w ∧ w.Landed s t := by
  cases hstep with
  | opened channel remote =>
      exact ⟨_, .opening channel remote, rfl, rfl, (List.append_nil _).symm⟩
  | sent hships hposts hkeeper hevents => exact ⟨_, .shipment hships, hposts, hkeeper, hevents⟩
  | credited hcredits hposts hkeeper hevents => exact (hq _ rfl).elim
  | rejected hledger hkeeper hevents => exact (hq _ rfl).elim
  | refunded hfails hrefunds hposts hkeeper hevents =>
      refine ⟨_, .refund hfails hrefunds, hposts, hkeeper, ?_⟩
      rw [hevents, List.append_assoc]
  | acknowledged hcommitted hdecoded => exact ⟨_, .clearance hcommitted hdecoded, rfl, rfl, rfl⟩
  | refused _ e => exact (hreply e rfl).elim

/-- A step that refuses changes nothing. -/
theorem eq_of_step_refused {e : TransferError} (hstep : m.Step s q (.refused e) t) : t = s := by
  cases hstep
  rfl

/-- **What is due and covered lands.** -/
theorem exists_serve_of_covered [LawfulLedger β] (hdue : m.Due s.keeper q reply w)
    (hcovered : w.Covered s.ledger) : ∃ t, m.serve s q = (reply, t) ∧ w.Landed s t := by
  obtain ⟨v, hpost⟩ := hcovered
  cases hdue with
  | opening channel remote => exact ⟨_, rfl, rfl, rfl, (List.append_nil _).symm⟩
  | shipment hships =>
      obtain ⟨t, htransfer, hledger, hkeeper, hevents⟩ := exists_transfer hships hpost
      refine ⟨t, by rw [serve, htransfer]; rfl, ?_, hkeeper, hevents⟩
      rw [hledger]
      exact hpost
  | @refund _ packet data sender denom hfails hrefunds =>
      obtain ⟨o, u, hrefund⟩ := exists_refund hrefunds.sender hrefunds.denom hpost
      obtain ⟨t, hserve⟩ :=
        exists_serve_failing hfails hrefunds.committed hrefunds.decoded hrefund
      -- the step that was taken refunds the same packet to the same account
      have hstep := m.step_serve s q
      rw [hserve] at hstep
      cases hstep with
      | refunded hfails' hrefunds' hposts hkeeper hevents =>
          cases hfails.symm.trans hfails'
          obtain ⟨rfl, rfl, rfl⟩ := hrefunds.unique hrefunds'
          refine ⟨t, hserve, hposts, hkeeper, ?_⟩
          rw [hevents, List.append_assoc]
  | @clearance packet text data hcommitted hdecoded =>
      have hack : m.onAcknowledgement packet (.result text) s = .ok none _ :=
        onAcknowledgement_result_eq_ok_iff.2 ⟨hcommitted, data, hdecoded, rfl, rfl⟩
      exact ⟨_, congrArg (answer .settled) hack, rfl, rfl, rfl⟩

/-- What holds of a request that lands as a whole or not at all. -/
structure Atomic (m : TransferModule) (s : Stage ChannelKeeper β) (q : Request) : Prop where
  /-- A request that is refused changes nothing, and the ledger covers nothing that is due. -/
  refused : ∀ e t, m.serve s q = (.refused e, t) →
    t = s ∧ ∀ reply w, m.Due s.keeper q reply w → ¬ w.Covered s.ledger
  /-- A request that is not refused lands what is due: postings, keeper and reports together. -/
  served : ∀ reply t, m.serve s q = (reply, t) → (∀ e, reply ≠ .refused e) →
    ∃ w, m.Due s.keeper q reply w ∧ w.Landed s t
  /-- A callback that is refused keeps its packet committed. If what was due for it is covered
  while the packet is committed, repeating the callback lands it. -/
  repeatable : ∀ e t p, m.serve s q = (.refused e, t) → q.settling = some p →
    s.keeper.hasCommitment p = true → t.keeper.hasCommitment p = true ∧
      ∀ reply w, m.Due s.keeper q reply w → ∀ u : Stage ChannelKeeper β,
        u.keeper.hasCommitment p = true → w.Covered u.ledger →
          ∃ v, m.serve u q = (reply, v) ∧
            Effect.Landed { w with keeper := u.keeper.deleteCommitment p.key } u v

/-- **Transfers and callbacks are atomic.** Whatever the module, the stage and the request are,
as long as it is not about a packet that comes in, the request lands as a whole or not at all. -/
theorem atomic_serve [LawfulLedger β] (m : TransferModule) (s : Stage ChannelKeeper β)
    (q : Request) (hq : ∀ packet, q ≠ .receive packet) : m.Atomic s q where
  refused e t hserve := by
    have hstep := m.step_serve s q
    rw [hserve] at hstep
    refine ⟨eq_of_step_refused hstep, fun reply w hdue hcovered => ?_⟩
    -- what is due and covered would have landed
    obtain ⟨u, hlanded, -⟩ := exists_serve_of_covered hdue hcovered
    rw [hserve] at hlanded
    exact hdue.ne_refused e (congrArg Prod.fst hlanded).symm
  served reply t hserve hreply := by
    have hstep := m.step_serve s q
    rw [hserve] at hstep
    exact exists_due_of_step hq hstep hreply
  repeatable e t p hserve hp hcommitted := by
    have hstep := m.step_serve s q
    rw [hserve] at hstep
    cases eq_of_step_refused hstep
    refine ⟨hcommitted, fun reply w hdue u hu hcovered => ?_⟩
    exact exists_serve_of_covered (hdue.of_committed hp hu) hcovered

end TransferModule

namespace Sample

/-- The stage after the sample message was sent. -/
def shipped : Stage ChannelKeeper MemoryLedger :=
  desk.run stage [opening, .transfer message]

/-- The same, but with a ledger from which all coins are gone. -/
def drained : Stage ChannelKeeper MemoryLedger :=
  { shipped with ledger := (∅ : MemoryLedger).registerModule transferModule ⟨true, true⟩ }

theorem refunds_packet :
    TransferModule.Refunds drained.keeper packet data (user 1) xrowan where
  committed := by decide +kernel
  decoded := decodeData_packet
  sender := Address.parse_text (user 1)
  denom := Trace.localDenom_of_plain (d := xrowan) (by decide +kernel)

end Sample

/-- The timeout of the sample packet is refused while there are no coins, and it is served when
they are back. -/
theorem TransferModule.atomic_serve_sample :
    (∃ e, Sample.desk.serve Sample.drained (.timeout Sample.packet) =
        (.refused e, Sample.drained)) ∧
      Sample.drained.keeper.hasCommitment Sample.packet = true ∧
      ∃ v, Sample.desk.serve Sample.shipped (.timeout Sample.packet) =
        (.settled (some (.reversed ⟨Sample.xrowan, 12⟩ ⟨Sample.rowan, 1200000000⟩)), v) := by
  have hatomic := atomic_serve Sample.desk Sample.drained (.timeout Sample.packet)
    fun _ => Request.noConfusion
  have hcommitted : Sample.drained.keeper.hasCommitment Sample.packet = true :=
    Sample.refunds_packet.committed
  have hreply : (Sample.desk.serve Sample.drained (.timeout Sample.packet)).1 =
      .refused (.ledger (.insufficientFunds (.escrow .transfer Sample.channel)
        ⟨Sample.xrowan, 12⟩ 0)) := by
    decide +kernel
  cases hserve : Sample.desk.serve Sample.drained (.timeout Sample.packet) with
  | mk reply t =>
      rw [hserve] at hreply
      cases hreply
      refine ⟨⟨_, by rw [(hatomic.refused _ t hserve).1]⟩, hcommitted, ?_⟩
      -- what is due for the timeout is covered by the ledger before the coins were gone
      have hdue : Sample.desk.Due Sample.drained.keeper (.timeout Sample.packet) _ _ :=
        .refund rfl Sample.refunds_packet
      have hok : (Journal.post Sample.shipped.ledger (Sample.desk.refundPostings Sample.packet
          Sample.data (Sample.user 1) Sample.xrowan)).isOk = true := by
        decide +kernel
      cases hpost : Journal.post Sample.shipped.ledger (Sample.desk.refundPostings Sample.packet
          Sample.data (Sample.user 1) Sample.xrowan) with
      | error e =>
          rw [hpost] at hok
          cases hok
      | ok b =>
          obtain ⟨-, hrepeat⟩ := hatomic.repeatable _ t _ hserve rfl hcommitted
          obtain ⟨v, hv, -⟩ := hrepeat _ _ hdue Sample.shipped (by decide +kernel)
            ⟨_, Journal.post_view_of_post hpost⟩
          have houtcome : Reversal.outcome (Reversal.plan? Sample.desk.registry Sample.packet
              Sample.data) Sample.data.amount =
                .reversed ⟨Sample.xrowan, 12⟩ ⟨Sample.rowan, 1200000000⟩ := by
            decide +kernel
          exact ⟨v, by rw [hv, houtcome]⟩

end Interchain
