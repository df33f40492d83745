import Interchain.Proofs.Ledger.Total
import Interchain.Proofs.Transfer.Movement
import Interchain.Proofs.Transfer.Refund

/-!
# Counterparts are backed

The surplus of a plan is what the module's account has of the unit beyond what the whole supply of
the counterpart is worth. No posting of the module drifts it as long as nobody acts for the module's
account: a conversion takes in what it mints the counterpart for, a plan gives it out again, and all
other coins pass through the account (`TransferModule.surplus_step`). So the surplus stays the same
in every run, and as long as it is not negative the plan can be executed for every holder
(`Plan.Solvent.exists_post_journal`): neither a refund nor a packet that comes in gets stuck for
lack of the unit (`exists_refund_of_solvent`, `exists_receive_of_solvent`).
-/

set_option autoImplicit false

namespace Interchain

open Ledger

namespace Plan

/-! ## Surplus and drift -/

/-- What the module's account has of the unit beyond what the counterpart is worth. -/
def surplus {β : Type} [Ledger β] (p : Plan) (b : β) : Int :=
  balance b custodian p.unit - (Numeral.tenPow p.po : Int) * supply b p.transport

/-- What a journal adds to the surplus. -/
def drift (p : Plan) (js : Journal) : Int :=
  Journal.change js custodian p.unit - (Numeral.tenPow p.po : Int) * Journal.issue js p.transport

variable {p q : Plan}

theorem surplus_post {β : Type} [Ledger β] [LawfulLedger β] {b c : β} {js : Journal}
    (h : Journal.post (view b) js = .ok (view c)) : p.surplus c = p.surplus b + p.drift js := by
  have hbalance := Journal.balance_post h custodian p.unit
  have hsupply := Journal.supply_post h p.transport
  simp only [balance_view, supply_view] at hbalance hsupply
  unfold surplus drift
  rw [hbalance, hsupply, Int.mul_add]
  omega

@[simp]
theorem drift_nil (p : Plan) : p.drift [] = 0 := by
  simp [drift, Journal.change, Journal.issue]

theorem drift_append (p : Plan) (js ks : Journal) :
    p.drift (js ++ ks) = p.drift js + p.drift ks := by
  unfold drift
  rw [Journal.change_append, Journal.issue_append, Int.mul_add]
  omega

theorem drift_inverse (p : Plan) (js : Journal) : p.drift (Journal.inverse js) = -p.drift js := by
  unfold drift
  rw [Journal.change_inverse, Journal.issue_inverse, Int.mul_neg]
  omega

/-- A token that leaves passes through the module's account at most. If it is the counterpart, it
goes into escrow. -/
theorem drift_departure {source : Hop} {path : String} {sender : Address} {token : Coin}
    (hsender : sender ≠ custodian)
    (hescrow : Address.escrow source.port source.channel ≠ custodian)
    (hside : senderIsSource source path = false → token.denom ≠ p.transport) :
    p.drift (ChannelKeeper.departure source path sender token) = 0 := by
  have hspared : custodian ≠ source.escrow := hescrow.symm
  rw [drift, ChannelKeeper.change_departure, ChannelKeeper.issue_departure,
    Coin.share_of_ne hsender.symm, Coin.share_of_ne hspared, ite_self]
  cases hsource : senderIsSource source path with
  | true => simp
  | false => simp [Coin.worth_of_ne (hside hsource).symm]

/-- What a conversion takes in and mints decides its drift. -/
theorem drift_conversion {sender : Address} {deducted converted : Coin}
    (hsender : sender ≠ custodian) :
    p.drift (Outbound.conversion sender deducted converted) =
      deducted.share custodian custodian p.unit -
        (Numeral.tenPow p.po : Int) * converted.worth p.transport := by
  rw [drift, Outbound.change_conversion, Outbound.issue_conversion, Coin.share_of_ne hsender.symm,
    Coin.share_of_ne hsender.symm]
  omega

/-- **No plan makes the surplus of another drift, nor does its own.** -/
theorem drift_journal {account : Address} (haccount : account ≠ custodian) (a : Amount)
    (h : q = p ∨ q.transport ≠ p.transport ∧ q.unit ≠ p.unit) :
    p.drift (q.journal account a) = 0 := by
  have hdrift : p.drift (q.journal account a) =
      (Numeral.tenPow p.po : Int) * (q.exchange a).burned.worth p.transport -
        (q.exchange a).released.share custodian custodian p.unit := by
    rw [← Outbound.inverse_conversion, drift_inverse, drift_conversion haccount]
    omega
  rw [hdrift]
  rcases h with rfl | ⟨htransport, hunit⟩
  · have hworth : (q.exchange a).burned.worth q.transport = a := if_pos rfl
    have hshare : (q.exchange a).released.share custodian custodian q.unit = a.restore q.po :=
      if_pos ⟨rfl, rfl⟩
    rw [hworth, hshare, Amount.restore_eq]
    push_cast
    rw [Int.mul_comm]
    omega
  · have hworth : (q.exchange a).burned.worth p.transport = 0 :=
      Coin.worth_of_ne (Ne.symm htransport)
    have hshare : (q.exchange a).released.share custodian custodian p.unit = 0 :=
      Coin.share_of_denom_ne (Ne.symm hunit) _ _
    rw [hworth, hshare]
    simp

/-! ## Plans for tokens of this chain -/

/-- Whether the counterpart is a token of this chain that stands for the unit and for no other. -/
structure Sole (r : Registry) (p : Plan) : Prop where
  resolves : Plan.resolve r p.transport = some p
  only : ∀ d : Denom, (r.entry d.text).counterparty = p.transport.text → d = p.unit
  isVoucher : p.transport.isVoucher = false
  plain : p.transport.isPlain = true

namespace Sole

variable {r : Registry}

theorem counterparts (h : p.Sole r) (hr : r.Valid) : Counterparts r p.unit p.transport :=
  .of_resolve hr h.resolves

/-- The exponent of the plan is what the unit has over the counterpart. -/
theorem po_eq (h : p.Sole r) (hr : r.Valid) :
    p.po = Outbound.excess r (r.entry p.unit.text) := by
  rw [Option.some.inj (h.resolves.symm.trans ((h.counterparts hr).resolve hr))]

/-- Another plan is about another counterpart and another unit. -/
theorem eq_or_ne (h : p.Sole r) (hr : r.Valid) {d : Denom} (hq : Plan.resolve r d = some q) :
    q = p ∨ q.transport ≠ p.transport ∧ q.unit ≠ p.unit := by
  have hpair := Counterparts.of_resolve hr hq
  have htransport : q.transport = d := Plan.transport_of_resolve hr hq
  by_cases hd : d = p.transport
  · subst hd
    exact .inl (Option.some.inj (hq.symm.trans h.resolves))
  · refine .inr ⟨fun heq => hd (htransport.symm.trans heq), fun hunit => hd ?_⟩
    -- the unit names one counterpart only
    have hnames := hpair.counterparty
    rw [hunit, (h.counterparts hr).counterparty] at hnames
    exact Validated.ext hnames.symm

/-- The counterpart leaves from this side of every channel. -/
theorem senderIsSource_of_fullPath (h : p.Sole r) {k : ChannelKeeper} {d : Denom} {path : String}
    {hop : Hop} (hpath : k.fullPath d = .ok path) (hside : senderIsSource hop path = false) :
    d ≠ p.transport := by
  rintro rfl
  rw [ChannelKeeper.eq_text_of_fullPath h.isVoucher hpath,
    senderIsSource_of_plain h.plain] at hside
  cases hside

/-- A token that came in over a channel is not the counterpart. -/
theorem ne_of_foreign (h : p.Sole r) {trace : Trace} {d : Denom}
    (hforeign : trace.isNative = false) (hlocal : trace.localDenom = .ok d) :
    d ≠ p.transport := by
  rintro rfl
  have hvoucher := Trace.isVoucher_of_localDenom hforeign hlocal
  rw [h.isVoucher] at hvoucher
  cases hvoucher

end Sole

end Plan

/-! ## Requests that leave an account alone -/

/-- Whether an account is neither the sender of a message nor the receiver of a packet, nor the
escrow account of a channel that one of them goes over. -/
def Request.Spares (account : Address) : Request → Prop
  | .transfer message =>
      Address.parse message.sender ≠ .ok account ∧
        Address.escrow message.sourcePort message.sourceChannel ≠ account
  | .receive packet =>
      (∀ data, packet.decodeData = .ok data → Address.parse data.receiver ≠ .ok account) ∧
        Address.escrow packet.destinationPort packet.destinationChannel ≠ account
  | .openChannel _ _ => True
  | .acknowledge _ _ => True
  | .timeout _ => True

/-- Whether no refund of a committed packet goes to or comes from the account. -/
def ChannelKeeper.Spares (k : ChannelKeeper) (account : Address) : Prop :=
  ∀ p, k.hasCommitment p = true →
    (∀ data, p.decodeData = .ok data → Address.parse data.sender ≠ .ok account) ∧
      Address.escrow p.sourcePort p.sourceChannel ≠ account

theorem ChannelKeeper.spares_of_fresh {k : ChannelKeeper} (h : k.Fresh) (account : Address) :
    k.Spares account := by
  intro p hp
  rw [hasCommitment_iff, h.commitments] at hp
  cases hp

theorem ChannelKeeper.Spares.congr {k l : ChannelKeeper} {account : Address}
    (hk : k.Spares account) (h : l.commitments = k.commitments) : l.Spares account := by
  intro p hp
  rw [hasCommitment_iff, h, ← hasCommitment_iff] at hp
  exact hk p hp

theorem ChannelKeeper.Spares.deleteCommitment {k : ChannelKeeper} {account : Address}
    (hk : k.Spares account) (key : PacketKey) : (k.deleteCommitment key).Spares account := by
  intro p hp
  exact hk p (hasCommitment_deleteCommitment.1 hp).2

namespace TransferModule

variable {m : TransferModule} {p : Plan}

/-- What is committed comes from a message, which left the account alone. -/
theorem Turn.spares {k l : ChannelKeeper} {account : Address} {q : Request} (h : m.Turn k q l)
    (hq : q.Spares account) (hk : k.Spares account) : l.Spares account := by
  cases h with
  | opened channel remote => exact hk.congr rfl
  | @committed message sh hships =>
      intro packet hpacket
      rw [ChannelKeeper.hasCommitment_commit] at hpacket
      by_cases hkey : packet.key = (sh.packet k message).key
      · rw [if_pos hkey] at hpacket
        subst hpacket
        refine ⟨fun data hdata => ?_, hq.2⟩
        cases (sh.decodeData_packet k message).symm.trans hdata
        exact hq.1
      · rw [if_neg hkey] at hpacket
        exact hk packet hpacket
  | arrived hdecoded hdenom => exact hk.congr (k.commitments_afterArrival _ _ _)
  | cleared hcommitted => exact hk.deleteCommitment _
  | kept => exact hk

section Steps

variable {β : Type} [Ledger β] {s t : Stage ChannelKeeper β}

/-! ## No step drifts -/

/-- **A conversion takes in what it mints the counterpart for.** -/
theorem drift_preparation (hr : m.registry.Valid) (hp : p.Sole m.registry) {k : ChannelKeeper}
    {message : TransferMessage} {sh : Shipment} (hships : m.Ships k message sh)
    (hsender : sh.sender ≠ custodian) : p.drift sh.preparation = 0 := by
  rw [Shipment.preparation]
  cases hships.carries with
  | literal hpasses hliteral hkept =>
      rw [hkept]
      exact p.drift_nil
  | converted hconverts hcounterpart hamount hpositive hdeducted =>
      rw [hdeducted]
      simp only [Plan.drift_conversion hsender]
      by_cases hunit : message.token.denom = p.unit
      · obtain ⟨htoken, -⟩ := Ships.of_counterparts hr (hp.counterparts hr) hships hunit
        -- the unit leaves as the counterpart, and what it is worth was taken in
        rw [htoken, hunit, Coin.share, if_pos ⟨rfl, rfl⟩, Coin.worth, if_pos rfl, ← hp.po_eq hr,
          Amount.deducted_reduce]
        push_cast
        rw [Int.mul_comm]
        omega
      · have htext := Denom.text_of_parse hcounterpart
        rw [hr.denom_entry hconverts.registered] at htext
        -- any other token leaves as a counterpart of its own
        have htoken : p.transport ≠ sh.token.denom := by
          intro htransport
          exact hunit (hp.only _ (by rw [htransport, htext]))
        rw [Coin.share, if_neg fun hboth => hunit hboth.2.symm, Coin.worth_of_ne htoken]
        simp

/-- A shipment drifts no surplus. -/
theorem drift_shipment (hr : m.registry.Valid) (hp : p.Sole m.registry) {k : ChannelKeeper}
    {message : TransferMessage} {sh : Shipment} (hships : m.Ships k message sh)
    (hspares : (Request.transfer message).Spares custodian) :
    p.drift (sh.journal message) = 0 := by
  have hsender : sh.sender ≠ custodian := Address.ne_of_parse hships.admits.sender hspares.1
  have hdeparture := @Plan.drift_departure p ⟨message.sourcePort, message.sourceChannel⟩ sh.path
    sh.sender sh.token hsender hspares.2 (hp.senderIsSource_of_fullPath hships.admits.path)
  rw [Shipment.journal, Plan.drift_append, drift_preparation hr hp hships hsender, hdeparture]
  rfl

/-- What arrives passes through the module's account at most. -/
theorem drift_arrival (hp : p.Sole m.registry) {k : ChannelKeeper} {packet : Packet}
    {data : PacketData} {receiver : Address} {coin : Coin}
    (hcredits : m.Credits k packet data receiver coin)
    (hspares : (Request.receive packet).Spares custodian) :
    receiver ≠ custodian ∧
      p.drift (ChannelKeeper.arrival packet data.denom receiver coin) = 0 := by
  have hreceiver : receiver ≠ custodian :=
    Address.ne_of_parse hcredits.receiver (hspares.1 data hcredits.decoded)
  refine ⟨hreceiver, ?_⟩
  have hspared : custodian ≠ packet.destination.escrow := Ne.symm hspares.2
  have hdenom := hcredits.denom
  rw [Plan.drift, ChannelKeeper.change_arrival, ChannelKeeper.issue_arrival,
    Coin.share_of_ne hreceiver.symm, Coin.share_of_ne hspared, ite_self]
  cases hside : receiverIsSource packet.source data.denom with
  | true => simp
  | false =>
      rw [ChannelKeeper.arrivalTrace, hside] at hdenom
      have hne := hp.ne_of_foreign (Trace.isNative_addHop _ _) hdenom
      simp [Coin.worth_of_ne hne.symm]

omit [Ledger β] in
/-- What is refunded passes through the module's account at most. -/
theorem drift_refundJournal (hp : p.Sole m.registry) {packet : Packet} {data : PacketData}
    {sender : Address} {denom : Denom} (hrefunds : Refunds s.keeper packet data sender denom)
    (hk : s.keeper.Spares custodian) :
    sender ≠ custodian ∧
      p.drift (ChannelKeeper.refundJournal packet.source data.denom sender
        ⟨denom, data.amount⟩) = 0 := by
  obtain ⟨hspares, hescrow⟩ := hk packet hrefunds.committed
  have hsender : sender ≠ custodian :=
    Address.ne_of_parse hrefunds.sender (hspares data hrefunds.decoded)
  have hdeparture := @Plan.drift_departure p packet.source data.denom sender
    ⟨denom, data.amount⟩ hsender hescrow fun hside => hp.ne_of_foreign
      (isNative_of_receiverIsSource (senderIsSource_eq_false_iff.1 hside)) hrefunds.denom
  refine ⟨hsender, ?_⟩
  rw [ChannelKeeper.refundJournal_eq_inverse, Plan.drift_inverse, hdeparture, Int.neg_zero]

/-- A conversion that may or may not be due drifts no surplus. -/
theorem drift_journalOf (hr : m.registry.Valid) (hp : p.Sole m.registry) {account : Address}
    (haccount : account ≠ custodian) (a : Amount) {plan? : Option Plan}
    (hplan : ∀ q, plan? = some q → ∃ d, Plan.resolve m.registry d = some q) :
    p.drift (Plan.journalOf plan? account a) = 0 := by
  cases hplan? : plan? with
  | none => exact p.drift_nil
  | some q =>
      obtain ⟨d, hd⟩ := hplan q hplan?
      exact Plan.drift_journal haccount a (hp.eq_or_ne hr hd)

/-- **No step changes the surplus.** -/
theorem surplus_step [LawfulLedger β] (hr : m.registry.Valid) (hp : p.Sole m.registry)
    {q : Request} {reply : Reply} (hstep : m.Step s q reply t) (hq : q.Spares custodian)
    (hk : s.keeper.Spares custodian) : p.surplus t.ledger = p.surplus s.ledger := by
  have hpost : ∀ {js : Journal}, Journal.post (view s.ledger) js = .ok (view t.ledger) →
      p.drift js = 0 → p.surplus t.ledger = p.surplus s.ledger := by
    intro js hjs hdrift
    rw [Plan.surplus_post hjs, hdrift, Int.add_zero]
  cases hstep with
  | opened channel remote => rfl
  | sent hships hposts hkeeper hevents => exact hpost hposts (drift_shipment hr hp hships hq)
  | credited hcredits hposts hkeeper hevents =>
      obtain ⟨hreceiver, harrival⟩ := drift_arrival hp hcredits hq
      apply hpost hposts
      -- what arrived may be converted at once
      rw [creditJournal, Plan.drift_append, harrival,
        drift_journalOf hr hp hreceiver _ fun _ hplan => ⟨_, hplan⟩]
      rfl
  | rejected hledger hkeeper hevents => rw [hledger]
  | refunded hfails hrefunds hposts hkeeper hevents =>
      obtain ⟨hsender, hrefund⟩ := drift_refundJournal hp hrefunds hk
      apply hpost hposts
      rw [refundPostings, Plan.drift_append, hrefund,
        drift_journalOf hr hp hsender _ fun _ hplan =>
          ⟨_, Reversal.resolve_of_plan? hrefunds.denom hplan⟩]
      rfl
  | acknowledged hcommitted hdecoded => rfl
  | refused _ error => rfl

/-- **No run changes the surplus**, if it leaves the module's account alone. -/
theorem surplus_run [LawfulLedger β] (hr : m.registry.Valid) (hp : p.Sole m.registry)
    (hk : s.keeper.Spares custodian) {qs : List Request} (hqs : ∀ q ∈ qs, q.Spares custodian) :
    (m.run s qs).keeper.Spares custodian ∧ p.surplus (m.run s qs).ledger = p.surplus s.ledger := by
  refine m.run_induction
    (P := fun t => t.keeper.Spares custodian ∧ p.surplus t.ledger = p.surplus s.ledger)
    ⟨hk, rfl⟩ ?_
  rintro t ⟨hspares, hsurplus⟩ q hq
  have hstep := m.step_serve t q
  refine ⟨(turn_of_step hstep).spares (hqs q hq) hspares, ?_⟩
  rw [surplus_step hr hp hstep (hqs q hq) hspares, hsurplus]

end Steps

/-- What is held in all stays as far from the supply as it was. -/
theorem totalHeld_run (s : Stage ChannelKeeper MemoryLedger) (qs : List Request) (d : Denom) :
    ((m.run s qs).ledger.totalHeld d : Int) - supply (m.run s qs).ledger d =
      s.ledger.totalHeld d - supply s.ledger d := by
  refine m.run_induction
    (P := fun t : Stage ChannelKeeper MemoryLedger =>
      (t.ledger.totalHeld d : Int) - supply t.ledger d =
        s.ledger.totalHeld d - supply s.ledger d) rfl ?_
  intro t ht q _
  obtain ⟨js, hjs⟩ := exists_journal_of_step (m.step_serve t q)
  rw [MemoryLedger.totalHeld_sub_supply hjs, ht]

end TransferModule

/-! ## Solvency -/

namespace Plan

/-- Whether the module can give out the unit for all of the counterpart that is held. -/
structure Solvent (p : Plan) (b : MemoryLedger) : Prop where
  surplus : 0 ≤ p.surplus b
  held : b.totalHeld p.transport = supply b p.transport
  permissions : permissions b transferModule = ⟨true, true⟩

variable {p : Plan} {b c : MemoryLedger}

/-- What changes neither the surplus, nor what is held beyond the supply, nor the permissions keeps
the module solvent. -/
theorem Solvent.of_eq (h : p.Solvent b) (hsurplus : p.surplus c = p.surplus b)
    (hheld : (c.totalHeld p.transport : Int) - supply c p.transport =
      b.totalHeld p.transport - supply b p.transport)
    (hpermissions : Ledger.permissions c = Ledger.permissions b) : p.Solvent c where
  surplus := by
    rw [hsurplus]
    exact h.surplus
  held := by
    rw [h.held] at hheld
    apply Int.ofNat.inj
    show (c.totalHeld p.transport : Int) = supply c p.transport
    omega
  permissions := by rw [hpermissions, h.permissions]

/-- A journal without drift keeps the module solvent. -/
theorem Solvent.post (h : p.Solvent b) {js : Journal}
    (hpost : Journal.post (view b) js = .ok (view c)) (hdrift : p.drift js = 0) : p.Solvent c := by
  have hsurplus := p.surplus_post hpost
  rw [hdrift, Int.add_zero] at hsurplus
  exact h.of_eq hsurplus (MemoryLedger.totalHeld_sub_supply hpost p.transport)
    (Journal.permissions_of_view hpost)

/-- A solvent module has kept the unit for whatever there is of the counterpart. -/
theorem Solvent.redeemable (h : p.Solvent b) {a : Amount} (ha : a ≤ supply b p.transport) :
    p.Redeemable b a := by
  refine ⟨ha, ?_⟩
  -- the account has what the whole supply is worth, so it has what `a` is worth
  have hworth := Nat.mul_le_mul_left (Numeral.tenPow p.po) ha
  have hsurplus : 0 ≤ (balance b custodian p.unit : Int) -
      (Numeral.tenPow p.po : Int) * supply b p.transport := h.surplus
  have hworth : (Numeral.tenPow p.po : Int) * a ≤
      (Numeral.tenPow p.po : Int) * supply b p.transport := by exact_mod_cast hworth
  rw [Amount.restore_eq, Nat.mul_comm]
  apply Int.ofNat_le.1
  push_cast
  omega

/-- **A solvent module can execute the plan for every holder.** -/
theorem Solvent.exists_post_journal (h : p.Solvent b) (hne : p.unit ≠ p.transport)
    {account : Address} {a : Amount} (ha : a ≤ balance b account p.transport) :
    ∃ c, Journal.post b (p.journal account a) = .ok c := by
  have hsupply : a ≤ supply b p.transport := by
    rw [← h.held]
    exact Nat.le_trans ha (b.balance_le_totalHeld account p.transport)
  have hburner : (Ledger.permissions b transferModule).burner = true := by rw [h.permissions]
  exact (exists_post_journal_iff hne hburner).2 ⟨ha, h.redeemable hsupply⟩

end Plan

namespace Sample

def plan : Plan :=
  ⟨xrowan, rowan, 8⟩

theorem sole_plan : plan.Sole registry where
  resolves := by decide
  only d h := by
    apply Validated.ext
    simp only [Registry.entry, Registry.find?, registry, entries, List.foldl_cons, List.foldl_nil,
      FiniteMap.get?_insert] at h
    by_cases hx : d.text = "xrowan"
    · simp [hx] at h
      exact absurd h (by decide)
    · by_cases ho : d.text = "rowan"
      · exact ho
      · simp [hx, ho] at h
        exact absurd h (by decide)
  isVoucher := by decide
  plain := by decide

/-- The sample stage with some of the counterpart in circulation, and the unit for it kept. -/
def reserve : Stage ChannelKeeper MemoryLedger :=
  { stage with
    ledger := (stage.ledger.fund custodian ⟨rowan, 300000000⟩).fund (user 2) ⟨xrowan, 3⟩ }

end Sample

namespace TransferModule

variable {m : TransferModule} {p : Plan} {s : Stage ChannelKeeper MemoryLedger}

/-- A run keeps the module solvent. -/
theorem solvent_run (hr : m.registry.Valid) (hp : p.Sole m.registry)
    (hk : s.keeper.Spares custodian) {qs : List Request} (hqs : ∀ q ∈ qs, q.Spares custodian)
    (h : p.Solvent s.ledger) : p.Solvent (m.run s qs).ledger :=
  h.of_eq (surplus_run hr hp hk hqs).2 (totalHeld_run s qs p.transport) (permissions_run s qs)

/-- **No refund gets stuck.** If the keeper can refund a packet that carried the counterpart, the
refund of the module goes through. -/
theorem exists_refund_of_solvent (hr : m.registry.Valid) (hp : p.Sole m.registry)
    (hk : s.keeper.Spares custodian) (h : p.Solvent s.ledger) {packet : Packet}
    {data : PacketData} {coin : Coin} {u : Stage ChannelKeeper MemoryLedger}
    (hcommitted : s.keeper.hasCommitment packet = true) (hdecoded : packet.decodeData = .ok data)
    (hrefund : ChannelKeeper.refund packet data s = .ok coin u)
    (hcoin : coin.denom = p.transport) : ∃ o t, m.refund packet data s = .ok o t := by
  obtain ⟨denom, amount⟩ := coin
  obtain ⟨sender, hsender, hdenom, rfl, b, hb, -⟩ := ChannelKeeper.refund_eq_ok_iff.1 hrefund
  have hrefunds : Refunds s.keeper packet data sender denom :=
    ⟨hcommitted, hdecoded, hsender, hdenom⟩
  have hpost := Journal.post_view_of_post hb
  suffices hposted : ∃ v, Journal.post (view s.ledger)
      (m.refundPostings packet data sender denom) = .ok v by
    obtain ⟨v, hv⟩ := hposted
    exact exists_refund hsender hdenom hv
  rw [refundPostings]
  cases hplan : Reversal.plan? m.registry packet data with
  | none => exact ⟨view b, Journal.post_append_eq_ok_iff.2 ⟨view b, hpost, rfl⟩⟩
  | some q =>
      -- the only plan for the counterpart is that of the unit
      have hresolve := Reversal.resolve_of_plan? hdenom hplan
      rw [show denom = p.transport from hcoin, hp.resolves] at hresolve
      cases hresolve
      obtain ⟨-, hdrift⟩ := drift_refundJournal hp hrefunds hk
      have hheld := ChannelKeeper.le_balance_of_refundJournal hb
      rw [hcoin] at hheld
      obtain ⟨c, hc⟩ := (h.post hpost hdrift).exists_post_journal (hp.counterparts hr).ne hheld
      exact ⟨view c, Journal.post_append_eq_ok_iff.2 ⟨view b, hpost, Journal.post_view_of_post hc⟩⟩

/-- **No packet gets stuck.** If the keeper can credit a packet that brings in the counterpart, the
module credits it, as long as it lets the counterpart in. -/
theorem exists_receive_of_solvent (hr : m.registry.Valid) (hp : p.Sole m.registry)
    (h : p.Solvent s.ledger) {packet : Packet} {data : PacketData} {coin : Coin}
    {u : Stage ChannelKeeper MemoryLedger} (hspares : (Request.receive packet).Spares custodian)
    (hdecoded : packet.decodeData = .ok data)
    (hreceive : ChannelKeeper.receive packet data s = .ok coin u)
    (hcoin : coin.denom = p.transport) (henabled : m.params.receiveEnabled = true)
    (hpermitted : m.params.requireImport = true →
      (m.registry.entry coin.denom.text).permits [.ibcImport] = true) :
    ∃ credited t, m.receive packet s = .ok credited t := by
  obtain ⟨hkeeper, hpositive, receiver, hreceiver, hdenom, hamount, b, hb, -⟩ :=
    ChannelKeeper.receive_eq_ok_iff.1 hreceive
  have hcredits : m.Credits s.keeper packet data receiver coin :=
    ⟨⟨henabled, hkeeper⟩, hdecoded, hpositive, hreceiver, hdenom, hamount, hpermitted⟩
  -- what arrived is covered by the solvent module, so it can be converted
  obtain ⟨-, hdrift⟩ := drift_arrival hp hcredits hspares
  have hpost := Journal.post_view_of_post hb
  have hheld := ChannelKeeper.le_balance_of_arrival hb
  rw [hcoin] at hheld
  obtain ⟨c, hc⟩ := (h.post hpost hdrift).exists_post_journal (hp.counterparts hr).ne hheld
  apply exists_receive hcredits
  rw [creditJournal, hcoin, hp.resolves]
  exact Journal.post_append_eq_ok_iff.2 ⟨view b, hpost, Journal.post_view_of_post hc⟩

/-- Whether the module can give out the unit of a plan wherever that is due. -/
structure Redeems (m : TransferModule) (p : Plan) (s : Stage ChannelKeeper MemoryLedger) :
    Prop where
  /-- The plan can be executed for whatever an account other than the module's has. -/
  executes : ∀ account a, account ≠ custodian → a ≤ balance s.ledger account p.transport →
    ∃ e t, p.execute account a s = .ok e t
  /-- A committed packet is refunded if the keeper alone can refund it. -/
  refunds : ∀ packet data coin u, s.keeper.hasCommitment packet = true →
    packet.decodeData = .ok data → ChannelKeeper.refund packet data s = .ok coin u →
    coin.denom = p.transport → ∃ o t, m.refund packet data s = .ok o t
  /-- A packet that is let in is credited if the keeper alone can credit it. -/
  receives : ∀ packet data coin u, (Request.receive packet).Spares custodian →
    packet.decodeData = .ok data → ChannelKeeper.receive packet data s = .ok coin u →
    coin.denom = p.transport → m.params.receiveEnabled = true →
    (m.params.requireImport = true →
      (m.registry.entry coin.denom.text).permits [.ibcImport] = true) →
    ∃ credited t, m.receive packet s = .ok credited t

/-- **Counterparts are backed.** Let the counterpart of a plan be a token of this chain that stands
for the unit only. In a run from a fresh keeper that leaves the module's account alone, the surplus
of the plan never changes; and if the module was solvent at the start, it can give out the unit at
the end: for whatever an account other than its own has of the counterpart, and so in refunds and
for packets that come in. -/
theorem counterparts_backed (m : TransferModule) (hr : m.registry.Valid) (p : Plan)
    (hp : p.Sole m.registry) (start : Stage ChannelKeeper MemoryLedger)
    (hfresh : start.keeper.Fresh) (qs : List Request) (hqs : ∀ q ∈ qs, q.Spares custodian) :
    p.surplus (m.run start qs).ledger = p.surplus start.ledger ∧
      (p.Solvent start.ledger → m.Redeems p (m.run start qs)) := by
  have hfreshSpares := ChannelKeeper.spares_of_fresh hfresh custodian
  obtain ⟨hk, hsurplus⟩ := surplus_run hr hp hfreshSpares hqs
  refine ⟨hsurplus, fun hstart => ?_⟩
  have hsolvent := solvent_run hr hp hfreshSpares hqs hstart
  constructor
  · intro account a _ ha
    obtain ⟨c, hc⟩ := hsolvent.exists_post_journal (hp.counterparts hr).ne ha
    exact ⟨_, _, Plan.execute_eq_ok_iff.2 ⟨rfl, c, hc, rfl⟩⟩
  · intro packet data coin u hcommitted hdecoded hrefund hcoin
    exact exists_refund_of_solvent hr hp hk hsolvent hcommitted hdecoded hrefund hcoin
  · intro packet data coin u hspares hdecoded hreceive hcoin henabled hpermitted
    exact exists_receive_of_solvent hr hp hsolvent hspares hdecoded hreceive hcoin henabled
      hpermitted

/-- Under the sample requests the second user can still exchange what the module has for it. -/
theorem counterparts_backed_sample :
    Sample.plan.surplus (Sample.desk.run Sample.reserve Sample.requests).ledger = 0 ∧
      ∃ e t, Sample.plan.execute (Sample.user 2) 3
        (Sample.desk.run Sample.reserve Sample.requests) = .ok e t := by
  have hfresh : Sample.reserve.keeper.Fresh := ⟨rfl, rfl, rfl, rfl⟩
  have hspares : ∀ q ∈ Sample.requests, q.Spares custodian := by
    have huser : Sample.user 1 ≠ custodian := by decide +kernel
    have hmessage : (Request.transfer Sample.message).Spares custodian := by
      refine ⟨fun hparse => huser ?_, by decide +kernel⟩
      exact Except.ok.inj ((Address.parse_text (Sample.user 1)).symm.trans hparse)
    intro q hq
    simp only [Sample.requests, List.mem_cons, List.not_mem_nil, or_false] at hq
    rcases hq with rfl | rfl | rfl | rfl
    · trivial
    · exact hmessage
    · trivial
    · trivial
  obtain ⟨hsurplus, hredeems⟩ := counterparts_backed Sample.desk
    (Registry.valid_ofEntries Sample.ofEntries_entries) Sample.plan Sample.sole_plan Sample.reserve
    hfresh Sample.requests hspares
  have hstart : Sample.plan.surplus Sample.reserve.ledger = 0 := by decide +kernel
  refine ⟨by rw [hsurplus, hstart], (hredeems ⟨?_, ?_, ?_⟩).executes (Sample.user 2) 3 ?_ ?_⟩
  · exact Int.le_of_eq hstart.symm
  · decide +kernel
  · decide +kernel
  · decide +kernel
  · decide +kernel

end TransferModule

end Interchain
