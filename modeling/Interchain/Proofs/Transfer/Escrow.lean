import Interchain.Proofs.Transfer.Atomicity
import Interchain.Proofs.Transfer.Movement
import Mathlib.Algebra.Ring.Int.Defs
import Mathlib.Data.List.Induction

/-!
# Escrow accounts

What leaves over a hop for the first time goes into the escrow account of the hop. There it stays
while its packet is committed and after the packet was acknowledged, until it comes home or is
refunded. A gauge of this is the reserve of the account, which is what it has beyond what the
committed packets took into it: a step adds to the reserve what it acknowledges and takes off what
it brings home (`TransferModule.reserve_step`). So the account of every hop adds up after every run
(`TransferModule.escrow_adds_up`), and it can pay for every refund as long as no more has come home
than was acknowledged.
-/

set_option autoImplicit false

namespace Interchain

open Ledger

/-- Whether a denomination can be told from its path: vouchers can, and so can what reads as a
denomination of this chain. -/
def Denom.Legible (d : Denom) : Prop :=
  d.isVoucher = true ∨ d.isPlain = true

/-! ## What packets move -/

namespace Packet

/-- How much of a denomination the packet took into the escrow account of a hop. -/
def deposit (p : Packet) (h : Hop) (d : Denom) : Int :=
  match p.decodeData with
  | .ok data =>
      if p.source = h ∧ senderIsSource p.source data.denom = true ∧
          (Trace.parse data.denom).localDenom.toOption = some d then
        data.amount
      else
        0
  | .error _ => 0

/-- How much of a denomination the packet takes out of the escrow account of a hop when it comes
home. -/
def withdrawal (p : Packet) (h : Hop) (d : Denom) : Int :=
  match p.decodeData with
  | .ok data =>
      if p.destination = h ∧ receiverIsSource p.source data.denom = true ∧
          (ChannelKeeper.arrivalTrace p data.denom).localDenom.toOption = some d then
        data.amount
      else
        0
  | .error _ => 0

variable {p : Packet} {data : PacketData} {h : Hop} {d denom : Denom}

theorem deposit_of_decoded (hdata : p.decodeData = .ok data)
    (hdenom : (Trace.parse data.denom).localDenom = .ok denom) :
    p.deposit h d = if p.source = h ∧ senderIsSource p.source data.denom = true ∧ denom = d then
      (data.amount : Int) else 0 := by
  simp only [deposit, hdata, hdenom, Except.toOption, Option.some.injEq]

theorem withdrawal_of_decoded (hdata : p.decodeData = .ok data)
    (hdenom : (ChannelKeeper.arrivalTrace p data.denom).localDenom = .ok denom) :
    p.withdrawal h d = if p.destination = h ∧ receiverIsSource p.source data.denom = true ∧
      denom = d then (data.amount : Int) else 0 := by
  simp only [withdrawal, hdata, hdenom, Except.toOption, Option.some.injEq]

theorem deposit_nonneg (p : Packet) (h : Hop) (d : Denom) : 0 ≤ p.deposit h d := by
  rw [deposit]
  split
  · split
    · exact Int.natCast_nonneg _
    · exact Int.le_refl 0
  · exact Int.le_refl 0

end Packet

namespace ChannelKeeper

/-- What the committed packets took into the escrow account of a hop. -/
def pledged (k : ChannelKeeper) (h : Hop) (d : Denom) : Int :=
  k.commitments.sum fun _ p => p.deposit h d

variable {k l : ChannelKeeper} {h : Hop} {d : Denom} {packet : Packet}

theorem pledged_congr (heq : l.commitments = k.commitments) (h : Hop) (d : Denom) :
    l.pledged h d = k.pledged h d := by
  rw [pledged, heq, pledged]

theorem pledged_commit (hfree : k.commitments.get? packet.key = none) (h : Hop) (d : Denom) :
    (k.commit packet).pledged h d = k.pledged h d + packet.deposit h d := by
  rw [pledged, commit, FiniteMap.sum_insert, FiniteMap.weightAt, hfree, Option.elim_none, pledged]
  omega

theorem pledged_deleteCommitment (hcommitted : k.hasCommitment packet = true) (h : Hop)
    (d : Denom) :
    (k.deleteCommitment packet.key).pledged h d = k.pledged h d - packet.deposit h d := by
  rw [pledged, deleteCommitment, FiniteMap.sum_erase, FiniteMap.weightAt,
    hasCommitment_iff.1 hcommitted, Option.elim_some, pledged]

theorem deposit_le_pledged (hcommitted : k.hasCommitment packet = true) (h : Hop) (d : Denom) :
    packet.deposit h d ≤ k.pledged h d := by
  have hle := FiniteMap.weightAt_le_sum (w := fun _ p => p.deposit h d)
    (fun _ p => p.deposit_nonneg h d) k.commitments packet.key
  rw [FiniteMap.weightAt, hasCommitment_iff.1 hcommitted, Option.elim_some] at hle
  exact hle

end ChannelKeeper

/-! ## What journals do to an escrow account -/

section Journals

variable {h hop : Hop} {d : Denom} {account : Address} {coin : Coin} {path : String}

/-- What goes to the escrow account of a hop goes to that of no other. -/
theorem Coin.share_escrow (hhop : hop.escrow = h.escrow → hop = h) :
    coin.share hop.escrow h.escrow d =
      if hop = h ∧ coin.denom = d then (coin.amount : Int) else 0 := by
  rw [share]
  by_cases hboth : hop = h ∧ coin.denom = d
  · obtain ⟨rfl, rfl⟩ := hboth
    simp
  · have hne : ¬ (h.escrow = hop.escrow ∧ d = coin.denom) := by
      rintro ⟨hescrow, rfl⟩
      exact hboth ⟨hhop hescrow.symm, rfl⟩
    rw [if_neg hne, if_neg hboth]

/-- A departure goes into the escrow account of its own hop, unless it returns a voucher. -/
theorem ChannelKeeper.change_departure_escrow (haccount : account ≠ h.escrow)
    (hhop : hop.escrow = h.escrow → hop = h) :
    Journal.change (departure hop path account coin) h.escrow d =
      if hop = h ∧ senderIsSource hop path = true ∧ coin.denom = d then (coin.amount : Int)
      else 0 := by
  rw [change_departure, Coin.share_of_ne haccount.symm, Coin.share_escrow hhop]
  cases senderIsSource hop path with
  | true => simp
  | false => simp

/-- What comes home comes from the escrow account of its own hop. -/
theorem ChannelKeeper.change_arrival_escrow {packet : Packet} (haccount : account ≠ h.escrow)
    (hhop : packet.destination.escrow = h.escrow → packet.destination = h) :
    Journal.change (arrival packet path account coin) h.escrow d =
      -if packet.destination = h ∧ receiverIsSource packet.source path = true ∧ coin.denom = d then
        (coin.amount : Int) else 0 := by
  rw [change_arrival, Coin.share_of_ne haccount.symm, Coin.share_escrow hhop]
  cases receiverIsSource packet.source path with
  | true => simp
  | false => simp

/-- A plan leaves escrow accounts alone. -/
theorem Plan.change_journalOf_escrow (hcustodian : custodian ≠ h.escrow)
    (haccount : account ≠ h.escrow) (plan? : Option Plan) (a : Amount) :
    Journal.change (Plan.journalOf plan? account a) h.escrow d = 0 := by
  rw [change_journalOf_of_ne haccount.symm, if_neg hcustodian.symm]

/-- So does a conversion. -/
theorem Shipment.change_preparation_escrow {sh : Shipment} (hcustodian : custodian ≠ h.escrow)
    (haccount : sh.sender ≠ h.escrow) : Journal.change sh.preparation h.escrow d = 0 := by
  apply Journal.change_of_avoids
  rw [preparation]
  cases sh.deducted with
  | none => simp
  | some deducted =>
      simp [Outbound.conversion, Posting.Avoids, ofModule_transferModule, haccount, hcustodian]

end Journals

/-! ## Requests that respect an escrow account -/

/-- Whether nobody acts for the escrow account of a hop in a request, no other hop that the request
is about has the same account, and a token that is sent is legible. -/
def Request.Respects (h : Hop) : Request → Prop
  | .transfer message =>
      Address.parse message.sender ≠ .ok h.escrow ∧
        ((Hop.mk message.sourcePort message.sourceChannel).escrow = h.escrow →
          Hop.mk message.sourcePort message.sourceChannel = h) ∧
        message.token.denom.Legible
  | .receive packet =>
      (∀ data, packet.decodeData = .ok data → Address.parse data.receiver ≠ .ok h.escrow) ∧
        (packet.destination.escrow = h.escrow → packet.destination = h)
  | .openChannel _ _ => True
  | .acknowledge _ _ => True
  | .timeout _ => True

/-- What a refund of a packet is for, if it moves no coins of the escrow account of a hop but those
of the hop. -/
structure Packet.Refundable (p : Packet) (h : Hop) (data : PacketData) (sender : Address)
    (denom : Denom) : Prop where
  decoded : p.decodeData = .ok data
  parsed : Address.parse data.sender = .ok sender
  denom : (Trace.parse data.denom).localDenom = .ok denom
  spared : sender ≠ h.escrow
  apart : p.source.escrow = h.escrow → p.source = h

/-- What the departure of such a packet adds to the escrow account is what the packet took. -/
theorem Packet.Refundable.change_departure {p : Packet} {h : Hop} {data : PacketData}
    {sender : Address} {denom : Denom} (hp : p.Refundable h data sender denom) (d : Denom) :
    Journal.change (ChannelKeeper.departure p.source data.denom sender ⟨denom, data.amount⟩)
      h.escrow d = p.deposit h d := by
  rw [ChannelKeeper.change_departure_escrow hp.spared hp.apart,
    Packet.deposit_of_decoded hp.decoded hp.denom]

/-- Whether all committed packets can be refunded like that. -/
def ChannelKeeper.Respects (k : ChannelKeeper) (h : Hop) : Prop :=
  ∀ p, k.hasCommitment p = true → ∃ data sender denom, p.Refundable h data sender denom

theorem ChannelKeeper.Respects.congr {k l : ChannelKeeper} {h : Hop} (hk : k.Respects h)
    (heq : l.commitments = k.commitments) : l.Respects h := by
  intro p hp
  rw [hasCommitment_iff, heq, ← hasCommitment_iff] at hp
  exact hk p hp

theorem ChannelKeeper.respects_of_fresh {k : ChannelKeeper} (hk : k.Fresh) (h : Hop) :
    k.Respects h := by
  intro p hp
  rw [hasCommitment_iff, hk.commitments] at hp
  cases hp

/-- A refund that is due is of that kind. -/
theorem ChannelKeeper.Respects.of_refunds {k : ChannelKeeper} {h : Hop} (hk : k.Respects h)
    {p : Packet} {data : PacketData} {sender : Address} {denom : Denom}
    (hrefunds : TransferModule.Refunds k p data sender denom) :
    p.Refundable h data sender denom := by
  obtain ⟨data', sender', denom', hp⟩ := hk p hrefunds.committed
  obtain ⟨rfl, rfl, rfl⟩ :=
    hrefunds.unique ⟨hrefunds.committed, hp.decoded, hp.parsed, hp.denom⟩
  exact hp

namespace TransferModule

variable {m : TransferModule} {h : Hop} {k l : ChannelKeeper} {q : Request}

/-- Whether all counterparts are legible. -/
def Legible (m : TransferModule) : Prop :=
  ∀ (name : String) (d : Denom), (m.registry.entry name).counterparty = d.text → d.Legible

/-- What leaves for a legible token is legible, whether it was converted or not. -/
theorem Ships.legible (hr : m.registry.Valid) (hm : m.Legible) {message : TransferMessage}
    {sh : Shipment} (hships : m.Ships k message sh) (htoken : message.token.denom.Legible) :
    sh.token.denom.Legible := by
  cases hships.carries with
  | literal hpasses hliteral hkept =>
      rw [hliteral]
      exact htoken
  | converted hconverts hcounterpart hamount hpositive hdeducted =>
      apply hm message.token.denom.text
      rw [Denom.text_of_parse hcounterpart, hr.denom_entry hconverts.registered]

/-- The packet of a shipment can be refunded. -/
theorem Ships.refundable (hr : m.registry.Valid) (hm : m.Legible) (hk : k.Traced)
    {message : TransferMessage} {sh : Shipment} (hships : m.Ships k message sh)
    (hq : (Request.transfer message).Respects h) :
    (sh.packet k message).Refundable h (sh.data message) sh.sender sh.token.denom where
  decoded := sh.decodeData_packet k message
  parsed := hships.admits.sender
  denom := ChannelKeeper.localDenom_of_fullPath hk hships.admits.path
    (hships.legible hr hm hq.2.2)
  spared := Address.ne_of_parse hships.admits.sender hq.1
  apart := hq.2.1

/-- A request that respects the account leaves only packets that do. -/
theorem Turn.respects (hr : m.registry.Valid) (hm : m.Legible) (h₀ : m.Turn k q l)
    (hk : k.Traced) (hq : q.Respects h) (hrespects : k.Respects h) : l.Respects h := by
  cases h₀ with
  | opened channel remote => exact hrespects.congr rfl
  | @committed message sh hships =>
      intro p hp
      rw [ChannelKeeper.hasCommitment_commit] at hp
      by_cases hkey : p.key = (sh.packet k message).key
      · rw [if_pos hkey] at hp
        subst hp
        exact ⟨_, _, _, hships.refundable hr hm hk hq⟩
      · rw [if_neg hkey] at hp
        exact hrespects p hp
  | arrived hdecoded hdenom => exact hrespects.congr (k.commitments_afterArrival _ _ _)
  | cleared hcommitted =>
      intro p hp
      exact hrespects p (ChannelKeeper.hasCommitment_deleteCommitment.1 hp).2
  | kept => exact hrespects

/-! ## What requests bring home and acknowledge -/

namespace Served

variable {β : Type}

/-- How much of a denomination the request brought home over a hop. -/
def returned (e : Served β) (h : Hop) (d : Denom) : Int :=
  match e.request, e.reply with
  | .receive packet, .received ack => if ack.isSuccess then packet.withdrawal h d else 0
  | _, _ => 0

/-- How much of a denomination the packet that the request acknowledged took over a hop. -/
def released (e : Served β) (h : Hop) (d : Denom) : Int :=
  match e.request, e.reply with
  | .acknowledge packet (.result _), .settled _ => packet.deposit h d
  | _, _ => 0

/-- A failed packet is not acknowledged, and nothing comes home with it. -/
theorem unmoved_of_failing {e : Served β} {packet : Packet}
    (hq : e.request.failing = some packet) (h : Hop) (d : Denom) :
    e.returned h d = 0 ∧ e.released h d = 0 := by
  obtain ⟨s, q, reply, t⟩ := e
  cases q with
  | openChannel channel remote => cases hq
  | transfer message => cases hq
  | receive packet => cases hq
  | acknowledge packet ack =>
      cases ack with
      | result text => cases hq
      | error reason => exact ⟨rfl, rfl⟩
  | timeout packet => exact ⟨rfl, rfl⟩

/-- Nor does a refusal move anything. -/
theorem unmoved_of_refused {e : Served β} {error : TransferError}
    (hreply : e.reply = .refused error) (h : Hop) (d : Denom) :
    e.returned h d = 0 ∧ e.released h d = 0 := by
  constructor
  · rw [returned]
    split
    · rename_i hreceived
      cases hreceived.symm.trans hreply
    · rfl
  · rw [released]
    split
    · rename_i hsettled
      cases hsettled.symm.trans hreply
    · rfl

end Served

variable {β : Type} [Ledger β] {s t : Stage ChannelKeeper β} {d : Denom} {reply : Reply}

/-- What the escrow account of a hop has beyond what the committed packets took into it. -/
def reserve (s : Stage ChannelKeeper β) (h : Hop) (d : Denom) : Int :=
  balance s.ledger h.escrow d - s.keeper.pledged h d

theorem balance_of_posts {js : Journal}
    (hposts : Journal.post (view s.ledger) js = .ok (view t.ledger)) (account : Address) :
    (balance t.ledger account d : Int) = balance s.ledger account d + Journal.change js account d :=
  Journal.balance_post hposts account d

/-- **A step adds to the reserve what it acknowledges, and takes off what it brings home.** -/
theorem reserve_step (hr : m.registry.Valid) (hm : m.Legible) (hcustodian : custodian ≠ h.escrow)
    (hk : s.keeper.Traced) (hrespects : s.keeper.Respects h)
    (hfree : ∀ packet : Packet, packet.sequence = s.keeper.sequenceOf packet.sourceChannel →
      s.keeper.commitments.get? packet.key = none)
    (hq : q.Respects h) (hstep : m.Step s q reply t) :
    reserve t h d + (⟨s, q, reply, t⟩ : Served β).returned h d =
      reserve s h d + (⟨s, q, reply, t⟩ : Served β).released h d := by
  unfold reserve
  cases hstep with
  | opened channel remote => rfl
  | @sent message sh _ hships hposts hkeeper hevents =>
      have hrefundable := hships.refundable hr hm hk hq
      have hbalance := balance_of_posts (d := d) hposts h.escrow
      have hdeposit : Journal.change (ChannelKeeper.departure
          ⟨message.sourcePort, message.sourceChannel⟩ sh.path sh.sender sh.token) h.escrow d =
            (sh.packet s.keeper message).deposit h d :=
        hrefundable.change_departure d
      have hreturned : (⟨s, .transfer message, .sent ⟨s.keeper.sequenceOf message.sourceChannel⟩,
          t⟩ : Served β).returned h d = 0 := rfl
      have hreleased : (⟨s, .transfer message, .sent ⟨s.keeper.sequenceOf message.sourceChannel⟩,
          t⟩ : Served β).released h d = 0 := rfl
      rw [Shipment.journal, Journal.change_append,
        Shipment.change_preparation_escrow hcustodian hrefundable.spared, hdeposit] at hbalance
      rw [hkeeper, ChannelKeeper.pledged_commit (hfree _ rfl), hbalance, hreturned, hreleased]
      omega
  | @credited packet data receiver coin _ hcredits hposts hkeeper hevents =>
      have hreceiver : receiver ≠ h.escrow :=
        Address.ne_of_parse hcredits.receiver (hq.1 data hcredits.decoded)
      have hbalance := balance_of_posts (d := d) hposts h.escrow
      have hwithdrawal := Packet.withdrawal_of_decoded (h := h) (d := d) hcredits.decoded
        hcredits.denom
      have hreturned : (⟨s, .receive packet, .received .success, t⟩ : Served β).returned h d =
          packet.withdrawal h d := rfl
      have hreleased : (⟨s, .receive packet, .received .success, t⟩ : Served β).released h d = 0 :=
        rfl
      rw [creditJournal, Journal.change_append, Plan.change_journalOf_escrow hcustodian hreceiver,
        ChannelKeeper.change_arrival_escrow hreceiver hq.2, hcredits.amount,
        ← hwithdrawal] at hbalance
      rw [hkeeper, ChannelKeeper.pledged_congr (s.keeper.commitments_afterArrival _ _ _),
        hbalance, hreturned, hreleased]
      omega
  | @rejected packet error _ hledger hkeeper hevents =>
      have hcommitments : t.keeper.commitments = s.keeper.commitments := by
        rcases hkeeper with hkeeper | ⟨data, denom, -, -, hkeeper⟩
        · rw [hkeeper]
        · rw [hkeeper, ChannelKeeper.commitments_afterArrival]
      rw [hledger, ChannelKeeper.pledged_congr hcommitments]
      rfl
  | @refunded _ packet data sender denom _ hfails hrefunds hposts hkeeper hevents =>
      -- what is refunded is what was told of the packet when it was sent
      have hrefundable := hrespects.of_refunds hrefunds
      have hbalance := balance_of_posts (d := d) hposts h.escrow
      obtain ⟨hreturned, hreleased⟩ := Served.unmoved_of_failing (e := ⟨s, q, _, _⟩) hfails h d
      rw [refundPostings, Journal.change_append,
        Plan.change_journalOf_escrow hcustodian hrefundable.spared,
        ChannelKeeper.refundJournal_eq_inverse, Journal.change_inverse,
        hrefundable.change_departure] at hbalance
      rw [hkeeper, ChannelKeeper.pledged_deleteCommitment hrefunds.committed, hbalance, hreturned,
        hreleased]
      omega
  | @acknowledged packet text data hcommitted hdecoded =>
      have hreturned : ∀ t, (⟨s, .acknowledge packet (.result text), .settled none, t⟩ :
          Served β).returned h d = 0 := fun _ => rfl
      have hreleased : ∀ t, (⟨s, .acknowledge packet (.result text), .settled none, t⟩ :
          Served β).released h d = packet.deposit h d := fun _ => rfl
      rw [hreturned, hreleased]
      show (balance s.ledger h.escrow d : Int) -
        (s.keeper.deleteCommitment packet.key).pledged h d + 0 = _
      rw [ChannelKeeper.pledged_deleteCommitment hcommitted]
      omega
  | refused _ error =>
      obtain ⟨hreturned, hreleased⟩ :=
        Served.unmoved_of_refused (e := ⟨s, q, .refused error, s⟩) rfl h d
      rw [hreturned, hreleased]

/-! ## Runs -/

theorem respects_run [LawfulLedger β] (hr : m.registry.Valid) (hm : m.Legible)
    (hk : s.keeper.Traced) (hrespects : s.keeper.Respects h) {qs : List Request}
    (hqs : ∀ q ∈ qs, q.Respects h) : (m.run s qs).keeper.Respects h := by
  have hrun : (m.run s qs).keeper.Traced ∧ (m.run s qs).keeper.Respects h := by
    refine m.run_induction (P := fun t => t.keeper.Traced ∧ t.keeper.Respects h)
      ⟨hk, hrespects⟩ ?_
    rintro t ⟨htraced, hrespects⟩ q hq
    have hturn := turn_of_step (m.step_serve t q)
    exact ⟨hturn.traced htraced, hturn.respects hr hm htraced (hqs q hq) hrespects⟩
  exact hrun.2

/-- How much of a denomination came home over a hop. -/
def returns (es : List (Served β)) (h : Hop) (d : Denom) : Int :=
  (es.map (·.returned h d)).sum

/-- How much of a denomination was acknowledged that left over a hop. -/
def releases (es : List (Served β)) (h : Hop) (d : Denom) : Int :=
  (es.map (·.released h d)).sum

/-- **A run adds to the reserve what it acknowledges, and takes off what it brings home.** -/
theorem reserve_run [LawfulLedger β] (hr : m.registry.Valid) (hm : m.Legible)
    (hcustodian : custodian ≠ h.escrow) (hfresh : s.keeper.Fresh) {qs : List Request}
    (hqs : ∀ q ∈ qs, q.Respects h)
    (hroom : ∀ channel, sends (m.history s qs) channel < UInt64.size - 1) (d : Denom) :
    reserve (m.run s qs) h d + returns (m.history s qs) h d =
      reserve s h d + releases (m.history s qs) h d := by
  have htraced : s.keeper.Traced := ChannelKeeper.traced_of_empty hfresh.traces
  have hfiled : s.keeper.Filed := ChannelKeeper.filed_of_fresh hfresh
  have hrespects : s.keeper.Respects h := ChannelKeeper.respects_of_fresh hfresh h
  -- the last request is served when the numbers of all packets before it are taken
  induction qs using List.reverseRecOn with
  | nil => simp [history, returns, releases]
  | append_singleton qs q ih =>
      have hearlier : ∀ q ∈ qs, q.Respects h := fun r hr => hqs r (List.mem_append_left _ hr)
      have hq : q.Respects h := hqs q (List.mem_append_right _ (List.mem_singleton_self q))
      have hhistory : m.history s (qs ++ [q]) = m.history s qs ++ [m.record (m.run s qs) q] :=
        m.history_append s qs [q]
      have hroomEarlier : ∀ channel, sends (m.history s qs) channel < UInt64.size - 1 := by
        intro channel
        have hall := hroom channel
        rw [hhistory, sends, List.countP_append] at hall
        exact Nat.lt_of_le_of_lt (Nat.le_add_right _ _) hall
      have hbooks := books_history hfresh qs hroomEarlier
      have hstep := reserve_step (d := d) hr hm hcustodian (traced_run htraced qs)
        (respects_run hr hm htraced hrespects hearlier)
        (fun packet hpacket => hbooks.free (filed_run hfiled qs) hpacket) hq
        (m.step_serve (m.run s qs) q)
      have hbefore := ih hearlier hroomEarlier
      have hrun : m.run s (qs ++ [q]) = (m.serve (m.run s qs) q).2 := m.run_append s qs [q]
      rw [hrun, hhistory]
      simp only [returns, releases, List.map_append, List.sum_append, List.map_singleton,
        List.sum_singleton] at hbefore ⊢
      simp only [record]
      omega

/-- A refund out of the escrow account goes through if the account has what the packet took. -/
theorem exists_refund_of_deposit [LawfulLedger β] {packet : Packet} {data : PacketData}
    {sender : Address} {denom : Denom} (hp : packet.Refundable h data sender denom)
    (hsource : packet.source = h) (hside : senderIsSource h data.denom = true)
    (hle : packet.deposit h denom ≤ balance s.ledger h.escrow denom) :
    ∃ u, ChannelKeeper.refund packet data s = .ok ⟨denom, data.amount⟩ u := by
  rw [Packet.deposit_of_decoded hp.decoded hp.denom, hsource, if_pos ⟨rfl, hside, rfl⟩] at hle
  obtain ⟨b, hb⟩ : ∃ b, Posting.post s.ledger (.pay h.escrow sender ⟨denom, data.amount⟩) =
      .ok b := (Posting.exists_post_iff _).2 (Int.ofNat_le.1 hle)
  have hpost : Journal.post s.ledger (ChannelKeeper.refundJournal packet.source data.denom sender
      ⟨denom, data.amount⟩) = .ok b := by
    rw [hsource, ChannelKeeper.refundJournal, if_pos hside]
    exact Journal.post_cons_eq_ok_iff.2 ⟨b, hb, rfl⟩
  exact ⟨_, ChannelKeeper.refund_eq_ok_iff.2 ⟨sender, hp.parsed, hp.denom, rfl, b, hpost, rfl⟩⟩

/-- **Escrow accounts add up.** Let the keeper be fresh and the escrow account of a hop be empty at
the start, and let every request of a run that does not run out of numbers respect the account.
Then after the run the account has, of every denomination and together with what came home over the
hop, what the committed packets of the hop took and what was acknowledged of it. So the refund of
every committed packet that took something out of circulation goes through, as long as no more of
it came home than was acknowledged. -/
theorem escrow_adds_up [LawfulLedger β] (m : TransferModule) (hr : m.registry.Valid)
    (hm : m.Legible) (h : Hop) (hcustodian : custodian ≠ h.escrow)
    (start : Stage ChannelKeeper β) (hfresh : start.keeper.Fresh)
    (hempty : ∀ d, balance start.ledger h.escrow d = 0) (qs : List Request)
    (hqs : ∀ q ∈ qs, q.Respects h)
    (hroom : ∀ channel, sends (m.history start qs) channel < UInt64.size - 1) :
    let s := m.run start qs
    let es := m.history start qs
    (∀ d, (balance s.ledger h.escrow d : Int) + returns es h d =
        s.keeper.pledged h d + releases es h d) ∧
      ∀ packet data, s.keeper.hasCommitment packet = true → packet.decodeData = .ok data →
        packet.source = h → senderIsSource h data.denom = true →
          ∃ d, (Trace.parse data.denom).localDenom = .ok d ∧
            (returns es h d ≤ releases es h d →
              ∃ u, ChannelKeeper.refund packet data s = .ok ⟨d, data.amount⟩ u) := by
  intro s es
  have hbalance : ∀ d, (balance s.ledger h.escrow d : Int) + returns es h d =
      s.keeper.pledged h d + releases es h d := by
    intro d
    have hrun := reserve_run hr hm hcustodian hfresh hqs hroom d
    have hpledged : start.keeper.pledged h d = 0 := by
      rw [ChannelKeeper.pledged, hfresh.commitments]
      rfl
    simp only [reserve, hempty, hpledged] at hrun
    show (balance (m.run start qs).ledger h.escrow d : Int) + returns (m.history start qs) h d =
      (m.run start qs).keeper.pledged h d + releases (m.history start qs) h d
    omega
  refine ⟨hbalance, ?_⟩
  intro packet data hcommitted hdecoded hsource hside
  have hrespects := respects_run hr hm (ChannelKeeper.traced_of_empty hfresh.traces)
    (ChannelKeeper.respects_of_fresh hfresh h) hqs
  obtain ⟨data', sender, d, hp⟩ := hrespects packet hcommitted
  obtain rfl := Except.ok.inj (hdecoded.symm.trans hp.decoded)
  refine ⟨d, hp.denom, fun hle => exists_refund_of_deposit hp hsource hside ?_⟩
  -- what the packet took is part of what the account still has to keep
  have hdeposit := ChannelKeeper.deposit_le_pledged hcommitted h d
  have hall := hbalance d
  omega

end TransferModule

namespace Sample

/-- The end of the sample channel on this chain. -/
def hop : Hop :=
  ⟨.transfer, channel⟩

/-- A packet that brings some of the counterpart home. -/
def homecoming : Packet :=
  { packet with data := (PacketData.mk (hop.extend "xrowan") 5 (userText 1) (userText 2)).toBytes }

/-- The message is sent twice and acknowledged once, and then some of the counterpart comes
home. -/
def dealings : List Request :=
  [opening, .transfer message, .acknowledge packet (.result "AQ=="), .transfer message,
    .receive homecoming]

theorem decodeData_homecoming :
    homecoming.decodeData = .ok ⟨hop.extend "xrowan", 5, userText 1, userText 2⟩ := by
  have hread : PacketData.ofBytes? homecoming.data = some _ := PacketData.ofBytes?_toBytes _
  rw [Packet.decodeData, hread]

theorem balance_stage_escrow (d : Denom) : balance stage.ledger hop.escrow d = 0 := by
  have hescrow : hop.escrow ≠ user 1 := by
    decide +kernel
  simp only [stage, MemoryLedger.fund, credit, LawfulLedger.balance_setSupply,
    LawfulLedger.balance_setBalance, hescrow, false_and, if_false]
  rfl

theorem legible_desk : desk.Legible := by
  intro name d hname
  rw [eq_xrowan_of_counterparty hname]
  exact .inr (by decide)

theorem respects_dealings : ∀ q ∈ dealings, q.Respects hop := by
  have huser : ∀ n, user n ≠ hop.escrow → Address.parse (userText n) ≠ .ok hop.escrow := by
    intro n hne hparse
    exact hne (Except.ok.inj ((Address.parse_text (user n)).symm.trans hparse))
  have hmessage : (Request.transfer message).Respects hop :=
    ⟨huser 1 (by decide +kernel), fun _ => rfl, .inr (by decide)⟩
  have hreceive : (Request.receive homecoming).Respects hop := by
    refine ⟨fun data hdata => ?_, fun _ => rfl⟩
    cases decodeData_homecoming.symm.trans hdata
    exact huser 2 (by decide +kernel)
  intro q hq
  simp only [dealings, List.mem_cons, List.not_mem_nil, or_false] at hq
  rcases hq with rfl | rfl | rfl | rfl | rfl
  · trivial
  · exact hmessage
  · trivial
  · exact hmessage
  · exact hreceive

end Sample

namespace TransferModule

/-- Of twenty-four that left five came home; twelve were acknowledged, and the other twelve can
be refunded. -/
theorem escrow_adds_up_sample :
    balance (Sample.desk.run Sample.stage Sample.dealings).ledger Sample.hop.escrow
        Sample.xrowan = 19 ∧
      returns (Sample.desk.history Sample.stage Sample.dealings) Sample.hop Sample.xrowan = 5 ∧
      releases (Sample.desk.history Sample.stage Sample.dealings) Sample.hop Sample.xrowan = 12 ∧
      (Sample.desk.run Sample.stage Sample.dealings).keeper.pledged Sample.hop Sample.xrowan = 12 ∧
      ∃ u, ChannelKeeper.refund { Sample.packet with sequence := 2 } Sample.data
        (Sample.desk.run Sample.stage Sample.dealings) = .ok ⟨Sample.xrowan, 12⟩ u := by
  have hfresh : Sample.stage.keeper.Fresh := ⟨rfl, rfl, rfl, rfl⟩
  have hroom : ∀ channel, sends (Sample.desk.history Sample.stage Sample.dealings) channel <
      UInt64.size - 1 := by
    intro channel
    apply Nat.lt_of_le_of_lt List.countP_le_length
    decide
  have hmoved : returns (Sample.desk.history Sample.stage Sample.dealings) Sample.hop
        Sample.xrowan = 5 ∧
      releases (Sample.desk.history Sample.stage Sample.dealings) Sample.hop
        Sample.xrowan = 12 := by
    decide +kernel
  have hkept : (Sample.desk.run Sample.stage Sample.dealings).keeper.pledged Sample.hop
        Sample.xrowan = 12 ∧
      (Sample.desk.run Sample.stage Sample.dealings).keeper.hasCommitment
        { Sample.packet with sequence := 2 } = true := by
    decide +kernel
  obtain ⟨hreturns, hreleases⟩ := hmoved
  obtain ⟨hpledged, hcommitted⟩ := hkept
  obtain ⟨hall, hrefund⟩ := escrow_adds_up Sample.desk
    (Registry.valid_ofEntries Sample.ofEntries_entries) Sample.legible_desk Sample.hop
    (by decide +kernel) Sample.stage hfresh Sample.balance_stage_escrow Sample.dealings
    Sample.respects_dealings hroom
  have hbalance := hall Sample.xrowan
  simp only [hreturns, hreleases, hpledged] at hbalance
  refine ⟨Int.ofNat.inj ?_, hreturns, hreleases, hpledged, ?_⟩
  · show (balance (Sample.desk.run Sample.stage Sample.dealings).ledger Sample.hop.escrow
      Sample.xrowan : Int) = 19
    omega
  obtain ⟨d, hd, hcan⟩ := hrefund { Sample.packet with sequence := 2 } Sample.data
    hcommitted Sample.decodeData_packet rfl (by decide +kernel)
  have hlocal : (Trace.parse Sample.data.denom).localDenom = .ok Sample.xrowan :=
    Trace.localDenom_of_plain (d := Sample.xrowan) (by decide +kernel)
  obtain rfl := Except.ok.inj (hd.symm.trans hlocal)
  exact hcan (by rw [hreturns, hreleases]; decide)

end TransferModule

end Interchain
