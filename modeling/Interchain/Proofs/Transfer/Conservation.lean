import Interchain.Proofs.Transfer.Movement
import Interchain.Proofs.Transfer.Network

/-!
# Tokens are conserved between two chains

A gauge is a quantity of the ledger of a chain that follows the tokens of one path: the balance of
the escrow account for a token of the chain (`Connection.homeGauge`), and the supply of its vouchers
on the other chain (`Connection.awayGauge`). What leaves under the path adds to the gauge and is
underway until it is settled, and what arrives is taken off the gauge of one chain and is no longer
underway on the other. So no request brings the chains out of balance (`Network.imbalance_serve`),
and the escrow account can always pay for what is in flight (`Connection.Opens.carries_le_balance`).
-/

set_option autoImplicit false

namespace Interchain

open Ledger

/-! ## What is underway -/

/-- How much of a token the packet carries under a path. -/
def Packet.carries (p : Packet) (path : String) : Int :=
  match p.decodeData with
  | .ok data => if data.denom = path then data.amount else 0
  | .error _ => 0

theorem Packet.carries_of_decoded {p : Packet} {data : PacketData} (h : p.decodeData = .ok data)
    (path : String) : p.carries path = if data.denom = path then (data.amount : Int) else 0 := by
  rw [carries, h]

theorem Packet.carries_nonneg (p : Packet) (path : String) : 0 ≤ p.carries path := by
  rw [carries]
  split
  · split
    · exact Int.natCast_nonneg _
    · exact Int.le_refl 0
  · exact Int.le_refl 0

namespace ChannelKeeper

variable {k l : ChannelKeeper} {packet : Packet}

/-- What a packet counts until it is accepted. -/
def burden (accepted : Packet → Bool) (path : String) (p : Packet) : Int :=
  if accepted p then 0 else p.carries path

/-- What the committed packets that are not accepted carry under a path. -/
def underway (k : ChannelKeeper) (accepted : Packet → Bool) (path : String) : Int :=
  k.commitments.sum fun _ p => burden accepted path p

theorem underway_congr (h : l.commitments = k.commitments) (accepted : Packet → Bool)
    (path : String) :
    l.underway accepted path = k.underway accepted path := by
  rw [underway, h, underway]

theorem underway_commit (h : k.commitments.get? packet.key = none) (accepted : Packet → Bool)
    (path : String) :
    (k.commit packet).underway accepted path =
      k.underway accepted path + burden accepted path packet := by
  rw [underway, commit, FiniteMap.sum_insert, FiniteMap.weightAt, h, Option.elim_none, underway]
  omega

theorem underway_deleteCommitment (h : k.hasCommitment packet = true) (accepted : Packet → Bool)
    (path : String) :
    (k.deleteCommitment packet.key).underway accepted path =
      k.underway accepted path - burden accepted path packet := by
  rw [underway, deleteCommitment, FiniteMap.sum_erase, FiniteMap.weightAt, hasCommitment_iff.1 h,
    Option.elim_some, underway]

/-- What is underway after a packet was answered. -/
theorem underway_of_answered {accepted answered : Packet → Bool} (hk : k.Filed)
    (h : k.hasCommitment packet = true) (hother : ∀ p, p ≠ packet → answered p = accepted p)
    (path : String) :
    k.underway answered path =
      k.underway accepted path - burden accepted path packet + burden answered path packet := by
  have hweight : ∀ w : Packet → Int,
      k.commitments.weightAt (fun _ => w) packet.key = w packet := by
    intro w
    rw [FiniteMap.weightAt, hasCommitment_iff.1 h, Option.elim_some]
  -- the weights differ at the key of the packet only
  have hsum := FiniteMap.sum_of_ne (m := k.commitments) (k := packet.key)
    (w := fun _ p => burden accepted path p) (v := fun _ p => burden answered path p) ?_
  · rw [hweight, hweight] at hsum
    exact hsum
  · intro key p hp hkey
    have hne : p ≠ packet := by
      rintro rfl
      exact hkey (hk key p hp)
    simp only [burden, hother p hne]

theorem burden_nonneg (accepted : Packet → Bool) (path : String) (p : Packet) :
    0 ≤ burden accepted path p := by
  rw [burden]
  split
  · exact Int.le_refl 0
  · exact p.carries_nonneg path

theorem underway_nonneg (k : ChannelKeeper) (accepted : Packet → Bool) (path : String) :
    0 ≤ k.underway accepted path :=
  FiniteMap.sum_nonneg (fun _ p => burden_nonneg accepted path p) k.commitments

/-- A packet that is not accepted is underway. -/
theorem carries_le_underway (h : k.hasCommitment packet = true) {accepted : Packet → Bool}
    (hunaccepted : accepted packet = false) (path : String) :
    packet.carries path ≤ k.underway accepted path := by
  have hle := FiniteMap.weightAt_le_sum (w := fun _ p => burden accepted path p)
    (fun _ p => burden_nonneg accepted path p) k.commitments packet.key
  rw [FiniteMap.weightAt, hasCommitment_iff.1 h, Option.elim_some, burden, hunaccepted] at hle
  exact hle

end ChannelKeeper

/-! ## Gauges -/

/-- A quantity of the ledger of a chain that follows the tokens of one path: what leaves under
`path` adds to it, and what arrives under `foreign` takes away from it. -/
structure Gauge (c : Connection) (paths : Side → List String) (side : Side) where
  path : String
  foreign : String
  value : MemoryLedger → Int
  gain : Journal → Int
  value_post {a b : MemoryLedger} {js : Journal}
    (h : Journal.post (view a) js = .ok (view b)) : value b = value a + gain js
  gain_inverse (js : Journal) : gain (Journal.inverse js) = -gain js
  gain_departure {p : String} {sender : Address} {token : Coin} (hp : c.Sends paths side p)
    (hlocal : (Trace.parse p).localDenom = .ok token.denom) (hsender : sender ≠ c.escrow side) :
    gain (ChannelKeeper.departure (c.ends side) p sender token) =
      if p = path then (token.amount : Int) else 0
  gain_arrival {packet : Packet} {x : String} {receiver : Address} {coin : Coin}
    (hsource : packet.source = c.ends side.other) (hdestination : packet.destination = c.ends side)
    (hx : x ∈ paths side.other)
    (hlocal : (ChannelKeeper.arrivalTrace packet x).localDenom = .ok coin.denom)
    (hreceiver : receiver ≠ c.escrow side) :
    gain (ChannelKeeper.arrival packet x receiver coin) =
      -if x = foreign then (coin.amount : Int) else 0

namespace Connection

variable {c : Connection} {paths : Side → List String} {side : Side} {d : Denom}

/-- A departure moves its token only. -/
theorem change_departure_of_ne {hop : Hop} {path : String} {sender : Address} {token : Coin}
    (h : d ≠ token.denom) (account : Address) :
    Journal.change (ChannelKeeper.departure hop path sender token) account d = 0 := by
  rw [ChannelKeeper.change_departure, Coin.share_of_denom_ne h, Coin.share_of_denom_ne h, ite_self]
  rfl

/-- An arrival moves its coin only. -/
theorem change_arrival_of_ne {packet : Packet} {path : String} {receiver : Address} {coin : Coin}
    (h : d ≠ coin.denom) (account : Address) :
    Journal.change (ChannelKeeper.arrival packet path receiver coin) account d = 0 := by
  rw [ChannelKeeper.change_arrival, Coin.share_of_denom_ne h, Coin.share_of_denom_ne h, ite_self]
  rfl

/-- A token of the chain leaves into the escrow account. -/
theorem change_departure_home (hvoucher : d.isVoucher = false) (hplain : d.isPlain = true)
    {p : String} {sender : Address} {token : Coin}
    (hlocal : (Trace.parse p).localDenom = .ok token.denom) (hsender : sender ≠ c.escrow side) :
    Journal.change (ChannelKeeper.departure (c.ends side) p sender token) (c.escrow side) d =
      if p = d.text then (token.amount : Int) else 0 := by
  have hiff := Trace.localDenom_eq_plain_iff hvoucher hplain hlocal
  by_cases hp : p = d.text
  · -- a token of the chain leaves from this side, so it goes into escrow
    have hdenom : token.denom = d := hiff.2 hp
    have htarget : token.share (c.ends side).escrow (c.escrow side) d = token.amount :=
      if_pos ⟨rfl, hdenom.symm⟩
    rw [if_pos hp, ChannelKeeper.change_departure, hp, if_pos (senderIsSource_of_plain hplain),
      htarget, Coin.share_of_ne hsender.symm]
    exact Int.sub_zero _
  · rw [if_neg hp]
    exact change_departure_of_ne (fun h => hp (hiff.1 h.symm)) _

/-- A token of the chain that comes home leaves the escrow account. -/
theorem change_arrival_home (hvoucher : d.isVoucher = false) (hplain : d.isPlain = true)
    {packet : Packet} {x : String} {receiver : Address} {coin : Coin}
    (hsource : packet.source = c.ends side.other) (hdestination : packet.destination = c.ends side)
    (hlocal : (ChannelKeeper.arrivalTrace packet x).localDenom = .ok coin.denom)
    (hreceiver : receiver ≠ c.escrow side) :
    Journal.change (ChannelKeeper.arrival packet x receiver coin) (c.escrow side) d =
      -if x = (c.ends side.other).extend d.text then (coin.amount : Int) else 0 := by
  rw [ChannelKeeper.arrivalTrace, hsource] at hlocal
  by_cases hx : x = (c.ends side.other).extend d.text
  · -- the token comes home and leaves the escrow account
    have hhome : receiverIsSource (c.ends side.other) x = true := by
      rw [hx]
      exact receiverIsSource_extend _ _
    rw [if_pos hhome, hx, removeHop_extend, Trace.localDenom_of_plain hplain] at hlocal
    have hdenom : d = coin.denom := Except.ok.inj hlocal
    have htaken : coin.share (c.ends side).escrow (c.escrow side) d = coin.amount :=
      if_pos ⟨rfl, hdenom⟩
    rw [if_pos hx, ChannelKeeper.change_arrival, hsource, hdestination, if_pos hhome, htaken,
      Coin.share_of_ne hreceiver.symm]
    exact Int.zero_sub _
  · rw [if_neg hx]
    -- no other path leads to this token
    refine change_arrival_of_ne (fun hdenom => hx ?_) _
    rw [← hdenom] at hlocal
    by_cases hhome : receiverIsSource (c.ends side.other) x = true
    · rw [if_pos hhome] at hlocal
      rw [← (Trace.fullPath_of_localDenom hvoucher hlocal).2]
      exact eq_extend_of_receiverIsSource hhome
    · rw [if_neg hhome] at hlocal
      have hforeign := (Trace.fullPath_of_localDenom hvoucher hlocal).1
      rw [Trace.isNative_addHop] at hforeign
      cases hforeign

/-- What is in the escrow account of a chain's own token. -/
def homeGauge (c : Connection) (paths : Side → List String) (side : Side) (d : Denom)
    (hvoucher : d.isVoucher = false) (hplain : d.isPlain = true) : Gauge c paths side where
  path := d.text
  foreign := (c.ends side.other).extend d.text
  value b := balance b (c.escrow side) d
  gain js := Journal.change js (c.escrow side) d
  value_post h := Journal.balance_post h (c.escrow side) d
  gain_inverse js := Journal.change_inverse js _ _
  gain_departure _ hlocal hsender := change_departure_home hvoucher hplain hlocal hsender
  gain_arrival hsource hdestination _ hlocal hreceiver :=
    change_arrival_home hvoucher hplain hsource hdestination hlocal hreceiver

/-- Vouchers are burned when they leave for where they came from. -/
theorem issue_departure_away {p : String} {sender : Address} {token : Coin}
    (hdistinct : ∀ x ∈ paths side.other, c.voucher side x = c.voucher side d.text → x = d.text)
    (hp : c.Sends paths side p) (hlocal : (Trace.parse p).localDenom = .ok token.denom) :
    -Journal.issue (ChannelKeeper.departure (c.ends side) p sender token)
      (c.voucher side d.text) =
      if p = (c.ends side).extend d.text then (token.amount : Int) else 0 := by
  rw [ChannelKeeper.issue_departure]
  cases hside : senderIsSource (c.ends side) p with
  | true =>
      -- a token of this side is not burned, and its path does not come from the other
      have hne : p ≠ (c.ends side).extend d.text := by
        rintro rfl
        rw [senderIsSource, receiverIsSource_extend] at hside
        cases hside
      rw [if_neg hne]
      rfl
  | false =>
      have hhome := senderIsSource_eq_false_iff.1 hside
      have hforeign := isNative_of_receiverIsSource hhome
      rw [Trace.localDenom_of_foreign hforeign, Trace.fullPath_parse] at hlocal
      have hdenom : Trace.voucher p = token.denom := Except.ok.inj hlocal
      rw [if_neg Bool.false_ne_true]
      by_cases hpath : p = (c.ends side).extend d.text
      · rw [if_pos hpath, Coin.worth, if_pos (by rw [← hdenom, hpath]; rfl)]
        omega
      · -- the vouchers of another path have another name
        obtain ⟨x, hx, rfl⟩ := hp.resolve_left (by simp [hforeign])
        have hne : c.voucher side d.text ≠ token.denom := by
          intro heq
          rw [← hdenom] at heq
          exact hpath (by rw [hdistinct x hx heq.symm])
        rw [if_neg hpath, Coin.worth_of_ne hne]
        rfl

/-- Vouchers are minted when the token arrives. -/
theorem issue_arrival_away (hplain : d.isPlain = true)
    (hdistinct : ∀ x ∈ paths side.other, c.voucher side x = c.voucher side d.text → x = d.text)
    {packet : Packet} {x : String} {receiver : Address} {coin : Coin}
    (hdestination : packet.destination = c.ends side) (hx : x ∈ paths side.other)
    (hlocal : (ChannelKeeper.arrivalTrace packet x).localDenom = .ok coin.denom) :
    -Journal.issue (ChannelKeeper.arrival packet x receiver coin) (c.voucher side d.text) =
      -if x = d.text then (coin.amount : Int) else 0 := by
  rw [ChannelKeeper.issue_arrival]
  rw [ChannelKeeper.arrivalTrace] at hlocal
  cases hside : receiverIsSource packet.source x with
  | true =>
      -- what comes home to this side is no token of the other
      have hne : x ≠ d.text := by
        rintro rfl
        have hforeign := isNative_of_receiverIsSource hside
        rw [show (Trace.parse d.text).isNative = true from hplain] at hforeign
        cases hforeign
      rw [if_neg hne]
      rfl
  | false =>
      rw [hside] at hlocal
      simp only [Bool.false_eq_true, if_false] at hlocal ⊢
      rw [Trace.localDenom_of_foreign (Trace.isNative_addHop _ _), Trace.fullPath_addHop,
        Trace.fullPath_parse, hdestination] at hlocal
      -- the voucher that is minted is that of the path
      have hdenom : c.voucher side x = coin.denom := Except.ok.inj hlocal
      by_cases hxd : x = d.text
      · rw [if_pos hxd, Coin.worth, if_pos (by rw [← hdenom, hxd])]
      · rw [if_neg hxd, Coin.worth_of_ne fun heq => hxd (hdistinct x hx (hdenom.trans heq.symm))]

/-- The vouchers of a token of the other chain, which count against what is there. -/
def awayGauge (c : Connection) (paths : Side → List String) (side : Side) (d : Denom)
    (hplain : d.isPlain = true)
    (hdistinct : ∀ x ∈ paths side.other, c.voucher side x = c.voucher side d.text → x = d.text) :
    Gauge c paths side where
  path := (c.ends side).extend d.text
  foreign := d.text
  value b := -supply b (c.voucher side d.text)
  gain js := -Journal.issue js (c.voucher side d.text)
  value_post {a b js} h := by
    have hsupply := Journal.supply_post h (c.voucher side d.text)
    simp only [supply_view] at hsupply
    omega
  gain_inverse js := by rw [Journal.issue_inverse]
  gain_departure hp hlocal _ := issue_departure_away hdistinct hp hlocal
  gain_arrival _ hdestination hx hlocal _ :=
    issue_arrival_away hplain hdistinct hdestination hx hlocal

end Connection

/-! ## Moves keep the balance -/

/-- What a request credited of the token with a path. -/
def TransferModule.Served.credited {β : Type} (e : Served β) (path : String) : Int :=
  match e.acknowledged with
  | some (packet, ack) => if ack.isSuccess then packet.carries path else 0
  | none => 0

/-- Only the answer to a packet credits anything. -/
theorem TransferModule.Served.credited_eq_zero {β : Type} {e : Served β}
    (h : ∀ ack, e.reply ≠ .received ack) (path : String) : e.credited path = 0 := by
  have hnone : e.acknowledged = none := by
    rw [acknowledged]
    split
    · rename_i hreply
      exact absurd hreply (h _)
    · rfl
  rw [credited, hnone]

namespace Network

open TransferModule (Served)

variable {c : Connection} {paths : Side → List String} {n : Network} {side : Side}

/-- A packet that was not sent yet has a free key. -/
theorem free_key (h : n.Sound c paths) (side : Side) (message : TransferMessage)
    (sh : Shipment) :
    (n.chain side).stage.keeper.commitments.get?
        (sh.packet (n.chain side).stage.keeper message).key = none ∧
      (n.chain side.other).accepts (sh.packet (n.chain side).stage.keeper message) = false := by
  obtain ⟨count, settled, hbooks, -⟩ := (h.chain side).books
  constructor
  · exact hbooks.free (h.chain side).filed rfl
  · rw [Chain.accepts]
    cases hanswer : (n.chain side.other).answer?
        (sh.packet (n.chain side).stage.keeper message) with
    | none => rfl
    | some ack =>
        have hsent := h.answered side.other _ ack hanswer
        rw [Side.other_other] at hsent
        -- all packets that were sent have smaller numbers
        exact absurd rfl (hbooks.key_ne hsent rfl)

/-- What is offered as a failure was not accepted. -/
theorem accepts_of_failing {q : Request} {packet : Packet} (hq : n.Offers c side q)
    (hfails : q.failing = some packet) : (n.chain side.other).accepts packet = false := by
  cases hq with
  | transfer hallows => cases hfails
  | receive hcommitted hundelivered => cases hfails
  | @acknowledge _ ack hrecorded =>
      cases ack with
      | result text => cases hfails
      | error reason =>
          cases hfails
          exact Chain.accepts_of_answer hrecorded
  | timeout hundelivered =>
      cases hfails
      exact Chain.accepts_of_unanswered hundelivered

/-- What is sent goes underway. -/
theorem gauge_sent (h : n.Sound c paths) (g : Gauge c paths side)
    {t : Stage ChannelKeeper MemoryLedger} {message : TransferMessage} {sh : Shipment}
    (hallows : c.AllowsMessage side message)
    (hships : (c.modules side).Ships (n.chain side).stage.keeper message sh)
    (hposts : Journal.post (view (n.chain side).stage.ledger) (sh.journal message) =
      .ok (view t.ledger))
    (hkeeper : t.keeper = (n.chain side).stage.keeper.commit
      (sh.packet (n.chain side).stage.keeper message)) :
    g.value t.ledger - t.keeper.underway (n.chain side.other).accepts g.path =
      g.value (n.chain side).stage.ledger -
        (n.chain side).stage.keeper.underway (n.chain side.other).accepts g.path := by
  have hsound := h.chain side
  obtain ⟨hfree, hunaccepted⟩ := free_key h side message sh
  obtain ⟨htoken, hjournal⟩ := hships.of_unregistered (c.unregistered side)
  have hposted := hsound.posted_packet (c.unregistered side) hships hallows
  have hsource : (⟨message.sourcePort, message.sourceChannel⟩ : Hop) = c.ends side :=
    hposted.source
  have hpath : (n.chain side).stage.keeper.fullPath message.token.denom = .ok sh.path := by
    rw [← htoken]
    exact hships.admits.path
  have hsender : sh.sender ≠ c.escrow side :=
    Address.ne_of_parse hships.admits.sender hallows.sender
  -- what the sender gives up is what the packet carries
  have hsends : c.Sends paths side sh.path := hposted.path
  have hgain := g.gain_departure hsends
    (ChannelKeeper.localDenom_of_fullPath hsound.traced hpath hallows.token) hsender
  have hburden : ChannelKeeper.burden (n.chain side.other).accepts g.path
      (sh.packet (n.chain side).stage.keeper message) =
        if sh.path = g.path then (message.token.amount : Int) else 0 := by
    rw [ChannelKeeper.burden, hunaccepted, Packet.carries_of_decoded hposted.decoded, ← htoken]
    rfl
  have hvalue := g.value_post hposts
  rw [hjournal, hsource] at hvalue
  rw [hkeeper, ChannelKeeper.underway_commit hfree, hburden, hvalue, hgain]
  omega

/-- What arrives and is credited is taken off. -/
theorem gauge_credited (g : Gauge c paths side)
    {t : Stage ChannelKeeper MemoryLedger} {packet : Packet} {data : PacketData}
    {receiver : Address} {coin : Coin} (hrequest : c.Requests paths side (.receive packet))
    (hcredits : (c.modules side).Credits (n.chain side).stage.keeper packet data receiver coin)
    (hposts : Journal.post (view (n.chain side).stage.ledger)
      ((c.modules side).creditJournal packet data.denom receiver coin) = .ok (view t.ledger)) :
    g.value t.ledger = g.value (n.chain side).stage.ledger - packet.carries g.foreign := by
  cases hrequest with
  | @receive _ sent hposted hpath =>
      -- the packet says the same on both sides
      cases hposted.decoded.symm.trans hcredits.decoded
      have hsource := hposted.source
      have hdestination := hposted.destination
      rw [Side.other_other] at hdestination
      have hspared := hposted.receiver
      rw [Side.other_other] at hspared
      have hreceiver : receiver ≠ c.escrow side := Address.ne_of_parse hcredits.receiver hspared
      have hgain := g.gain_arrival hsource hdestination hpath hcredits.denom hreceiver
      have hvalue := g.value_post hposts
      rw [TransferModule.creditJournal_of_unregistered (c.unregistered side), hgain,
        hcredits.amount] at hvalue
      rw [hvalue, Packet.carries_of_decoded hcredits.decoded]
      omega

/-- What is refunded is no longer underway. -/
theorem gauge_refunded (h : n.Sound c paths) (g : Gauge c paths side)
    {t : Stage ChannelKeeper MemoryLedger} {packet : Packet} {data : PacketData}
    {sender : Address} {denom : Denom}
    (hunaccepted : (n.chain side.other).accepts packet = false)
    (hrefunds : TransferModule.Refunds (n.chain side).stage.keeper packet data sender denom)
    (hposts : Journal.post (view (n.chain side).stage.ledger)
      ((c.modules side).refundPostings packet data sender denom) = .ok (view t.ledger))
    (hkeeper : t.keeper = (n.chain side).stage.keeper.deleteCommitment packet.key) :
    g.value t.ledger - t.keeper.underway (n.chain side.other).accepts g.path =
      g.value (n.chain side).stage.ledger -
        (n.chain side).stage.keeper.underway (n.chain side.other).accepts g.path := by
  -- the packet is one that the chain posted for an allowed message
  obtain ⟨sent, hposted⟩ :=
    (h.chain side).posted packet (h.sent_of_committed hrefunds.committed)
  cases hposted.decoded.symm.trans hrefunds.decoded
  have hsender : sender ≠ c.escrow side := Address.ne_of_parse hrefunds.sender hposted.sender
  have hlocal : (Trace.parse data.denom).localDenom = .ok (Coin.mk denom data.amount).denom :=
    hrefunds.denom
  have hgain : g.gain (ChannelKeeper.departure (c.ends side) data.denom sender
      ⟨denom, data.amount⟩) = if data.denom = g.path then (data.amount : Int) else 0 :=
    g.gain_departure hposted.path hlocal hsender
  have hburden : ChannelKeeper.burden (n.chain side.other).accepts g.path packet =
      if data.denom = g.path then (data.amount : Int) else 0 := by
    rw [ChannelKeeper.burden, hunaccepted, Packet.carries_of_decoded hrefunds.decoded]
    rfl
  have hvalue := g.value_post hposts
  rw [TransferModule.refundPostings_of_unregistered (c.unregistered side),
    ChannelKeeper.refundJournal_eq_inverse, g.gain_inverse, hposted.source, hgain] at hvalue
  rw [hkeeper, ChannelKeeper.underway_deleteCommitment hrefunds.committed, hburden, hvalue]
  omega

/-- **What a step adds to a gauge goes underway, and what it credits is taken off.** -/
theorem gauge_step (h : n.Sound c paths) (g : Gauge c paths side) {q : Request} {reply : Reply}
    {t : Stage ChannelKeeper MemoryLedger} (hq : n.Offers c side q)
    (hstep : (c.modules side).Step (n.chain side).stage q reply t) :
    g.value t.ledger - t.keeper.underway (n.chain side.other).accepts g.path =
      g.value (n.chain side).stage.ledger -
        (n.chain side).stage.keeper.underway (n.chain side.other).accepts g.path -
        (⟨(n.chain side).stage, q, reply, t⟩ : Served MemoryLedger).credited g.foreign := by
  cases hstep with
  | opened channel remote => cases hq
  | @sent message sh _ hships hposts hkeeper hevents =>
      cases hq with
      | transfer hallows =>
          rw [Served.credited_eq_zero fun _ => Reply.noConfusion, Int.sub_zero]
          exact gauge_sent h g hallows hships hposts hkeeper
  | @credited packet data receiver coin _ hcredits hposts hkeeper hevents =>
      have hcommitments : t.keeper.commitments = (n.chain side).stage.keeper.commitments := by
        rw [hkeeper, ChannelKeeper.commitments_afterArrival]
      have hcredited : (⟨(n.chain side).stage, .receive packet, .received .success, t⟩ :
          Served MemoryLedger).credited g.foreign = packet.carries g.foreign := rfl
      rw [hcredited, ChannelKeeper.underway_congr hcommitments,
        gauge_credited g (h.requests hq) hcredits hposts]
      omega
  | @rejected packet error _ hledger hkeeper hevents =>
      have hcommitments : t.keeper.commitments = (n.chain side).stage.keeper.commitments := by
        rcases hkeeper with hkeeper | ⟨data, denom, -, -, hkeeper⟩
        · rw [hkeeper]
        · rw [hkeeper, ChannelKeeper.commitments_afterArrival]
      have hcredited : (⟨(n.chain side).stage, .receive packet, .received (.error error.message),
          t⟩ : Served MemoryLedger).credited g.foreign = 0 := rfl
      rw [hcredited, ChannelKeeper.underway_congr hcommitments, hledger, Int.sub_zero]
  | refunded hfails hrefunds hposts hkeeper hevents =>
      rw [Served.credited_eq_zero fun _ => Reply.noConfusion, Int.sub_zero]
      exact gauge_refunded h g (accepts_of_failing hq hfails) hrefunds hposts hkeeper
  | @acknowledged packet text data hcommitted hdecoded =>
      -- what was accepted is not underway, so clearing it changes nothing
      have haccepted : (n.chain side.other).accepts packet = true := by
        cases hq with
        | acknowledge hrecorded =>
            exact Chain.accepts_of_answer hrecorded
      rw [Served.credited_eq_zero fun _ => Reply.noConfusion,
        ChannelKeeper.underway_deleteCommitment hcommitted, ChannelKeeper.burden, if_pos haccepted]
      simp
  | refused _ error =>
      rw [Served.credited_eq_zero fun _ => Reply.noConfusion, Int.sub_zero]

theorem gauge_serve (h : n.Sound c paths) (g : Gauge c paths side) {q : Request}
    (hq : n.Offers c side q) :
    g.value ((n.chain side).serve (c.modules side) q).stage.ledger -
        ((n.chain side).serve (c.modules side) q).stage.keeper.underway
          (n.chain side.other).accepts g.path =
      g.value (n.chain side).stage.ledger -
        (n.chain side).stage.keeper.underway (n.chain side.other).accepts g.path -
        ((c.modules side).record (n.chain side).stage q).credited g.foreign :=
  gauge_step h g hq ((c.modules side).step_serve (n.chain side).stage q)

/-- **What a request credits is no longer underway on the other chain.** -/
theorem underway_other (h : n.Sound c paths) {q : Request} (hq : n.Offers c side q)
    (path : String) :
    (n.chain side.other).stage.keeper.underway
        ((n.chain side).serve (c.modules side) q).accepts path =
      (n.chain side.other).stage.keeper.underway (n.chain side).accepts path -
        ((c.modules side).record (n.chain side).stage q).credited path := by
  by_cases hreceive : ∃ packet, q = .receive packet
  · obtain ⟨packet, rfl⟩ := hreceive
    cases hq with
    | receive hcommitted hundelivered =>
        have hbefore := Chain.accepts_of_unanswered hundelivered
        -- only this packet is answered, and it was not accepted before
        have hothers : ∀ p, p ≠ packet →
            ((n.chain side).serve (c.modules side) (.receive packet)).accepts p =
              (n.chain side).accepts p := by
          intro p hp
          apply Chain.accepts_serve
          intro heq
          exact hp (Request.receive.inj heq).symm
        obtain ⟨ack, hacknowledged, hanswer⟩ :=
          (n.chain side).serve_receive (c.modules side) packet
        rw [ChannelKeeper.underway_of_answered (h.chain side.other).filed hcommitted hothers,
          ChannelKeeper.burden, ChannelKeeper.burden, hbefore, Chain.accepts_of_answer hanswer,
          Served.credited, hacknowledged]
        cases hsuccess : ack.isSuccess with
        | true => simp [hsuccess]
        | false => simp [hsuccess]
  · -- no other request is answered
    have hsame : ((n.chain side).serve (c.modules side) q).accepts = (n.chain side).accepts := by
      funext p
      apply Chain.accepts_serve
      rintro rfl
      exact hreceive ⟨p, rfl⟩
    have hnone : ((c.modules side).record (n.chain side).stage q).acknowledged = none := by
      rw [Served.acknowledged]
      split
      · rename_i packet ack hrequest hreply
        exact absurd ⟨packet, hrequest⟩ hreceive
      · rfl
    rw [hsame, Served.credited, hnone, Int.sub_zero]

/-- What the packets of a side that are underway carry under a path. -/
def inFlight (n : Network) (side : Side) (path : String) : Int :=
  (n.chain side).stage.keeper.underway (n.chain side.other).accepts path

/-- What two gauges show beyond what is underway. -/
def imbalance (n : Network) (g : Gauge c paths side) (f : Gauge c paths side.other) : Int :=
  (g.value (n.chain side).stage.ledger - n.inFlight side g.path) +
    (f.value (n.chain side.other).stage.ledger - n.inFlight side.other f.path)

/-- **No request changes the balance between the chains**, if what leaves for one gauge arrives for
the other. -/
theorem imbalance_serve (h : n.Sound c paths) (g : Gauge c paths side)
    (f : Gauge c paths side.other) (hgf : g.foreign = f.path) (hfg : f.foreign = g.path) {i : Side}
    {q : Request} (hq : n.Offers c i q) :
    (n.set i ((n.chain i).serve (c.modules i) q)).imbalance g f = n.imbalance g f := by
  rcases i.eq_or_eq_other side with rfl | rfl
  · -- the request is put to the side of the first gauge
    have hgauge := gauge_serve h g hq
    have hunderway := underway_other h hq f.path
    rw [hgf] at hgauge
    unfold imbalance inFlight
    rw [chain_set_self, chain_set_other, Side.other_other, chain_set_self, hunderway]
    omega
  · -- the request is put to the other side, so the gauges change their parts
    have hgauge := gauge_serve h f hq
    have hunderway := underway_other h hq g.path
    have hback := chain_set_other n side.other
      ((n.chain side.other).serve (c.modules side.other) q)
    rw [hfg] at hgauge
    rw [Side.other_other] at hback hgauge hunderway
    unfold imbalance inFlight
    rw [chain_set_self, hback, Side.other_other, hback, hunderway]
    omega

end Network

/-! ## The start -/

namespace Connection

variable {c : Connection} {n : Network}

/-- Two chains with an open channel are sound. -/
theorem Opens.sound (h : c.Opens n) (paths : Side → List String) : n.Sound c paths where
  chain side := (h side).sound paths
  paths side x hx := by
    rw [Chain.paths, (h side).sent] at hx
    cases hx
  answered side packet ack hanswer := by
    rw [Chain.answer?, (h side).answered] at hanswer
    cases hanswer

/-- At the start nothing is in flight. -/
theorem Opens.inFlight (h : c.Opens n) (side : Side) (path : String) :
    n.inFlight side path = 0 := by
  obtain ⟨k, hfresh, -, hkeeper⟩ := (h side).keeper
  rw [Network.inFlight, ChannelKeeper.underway, hkeeper, ChannelKeeper.openChannel,
    hfresh.commitments]
  rfl

/-- At the start escrow accounts are empty and there are no vouchers. -/
theorem Opens.imbalance (h : c.Opens n) {paths : Side → List String} {home : Side} {d : Denom}
    (hvoucher : d.isVoucher = false) (hplain : d.isPlain = true)
    (hdistinct : ∀ x ∈ paths home.other.other,
      c.voucher home.other x = c.voucher home.other d.text → x = d.text) :
    n.imbalance (c.homeGauge paths home d hvoucher hplain)
      (c.awayGauge paths home.other d hplain hdistinct) = 0 := by
  have hescrow : balance (n.chain home).stage.ledger (c.escrow home) d = 0 := (h home).escrow d
  have hsupply : supply (n.chain home.other).stage.ledger (c.voucher home.other d.text) = 0 :=
    (h home.other).vouchers _ (Trace.isVoucher_voucher _)
  rw [Network.imbalance, h.inFlight, h.inFlight]
  show ((balance (n.chain home).stage.ledger (c.escrow home) d : Int) - 0) +
    (-(supply (n.chain home.other).stage.ledger (c.voucher home.other d.text) : Int) - 0) = 0
  rw [hescrow, hsupply]
  rfl

/-- No run from the opening of the channel brings the chains out of balance. -/
theorem Opens.imbalance_run (h : c.Opens n) {moves : List Move}
    (hmoves : ∀ mv ∈ moves, c.Allows mv)
    (hroom : ∀ side, ((c.run n moves).chain side).sent.length < UInt64.size - 1)
    {home : Side} {d : Denom} (hvoucher : d.isVoucher = false) (hplain : d.isPlain = true)
    (hdistinct : ∀ x ∈ ((c.run n moves).chain home).paths,
      c.voucher home.other x = c.voucher home.other d.text → x = d.text) :
    balance ((c.run n moves).chain home).stage.ledger (c.escrow home) d -
        (c.run n moves).inFlight home d.text -
        (supply ((c.run n moves).chain home.other).stage.ledger (c.voucher home.other d.text) +
          (c.run n moves).inFlight home.other ((c.ends home.other).extend d.text)) = 0 := by
  -- all paths of the run are taken as those that may be sent from the start
  let paths : Side → List String := fun side => ((c.run n moves).chain side).paths
  have hdistinct' : ∀ x ∈ paths home.other.other,
      c.voucher home.other x = c.voucher home.other d.text → x = d.text := by
    rw [Side.other_other]
    exact hdistinct
  let g := c.homeGauge paths home d hvoucher hplain
  let f := c.awayGauge paths home.other d hplain hdistinct'
  have hrun := Network.run_induction (P := fun n => n.imbalance g f = 0) (h.sound paths)
    (h.imbalance hvoucher hplain hdistinct') hmoves hroom (fun _ _ hx => hx)
    fun m hsound hzero side q hq _ =>
      (Network.imbalance_serve hsound g f rfl rfl hq).trans hzero
  have hzero : ((balance ((c.run n moves).chain home).stage.ledger (c.escrow home) d : Int) -
      (c.run n moves).inFlight home d.text) +
      (-(supply ((c.run n moves).chain home.other).stage.ledger
        (c.voucher home.other d.text) : Int) -
        (c.run n moves).inFlight home.other ((c.ends home.other).extend d.text)) = 0 := hrun.2
  omega

/-- **The escrow account can pay for what is in flight**: what a packet of its chain carries of the
token, and what a packet of the other chain carries of the vouchers. -/
theorem Opens.carries_le_balance (h : c.Opens n) {moves : List Move}
    (hmoves : ∀ mv ∈ moves, c.Allows mv)
    (hroom : ∀ side, ((c.run n moves).chain side).sent.length < UInt64.size - 1)
    {home : Side} {d : Denom} (hvoucher : d.isVoucher = false) (hplain : d.isPlain = true)
    (hdistinct : ∀ x ∈ ((c.run n moves).chain home).paths,
      c.voucher home.other x = c.voucher home.other d.text → x = d.text) {side : Side}
    {path : String} (hpath : side = home ∧ path = d.text ∨
      side = home.other ∧ path = (c.ends home.other).extend d.text) {packet : Packet}
    (hcommitted : ((c.run n moves).chain side).stage.keeper.hasCommitment packet = true)
    (hunaccepted : ((c.run n moves).chain side.other).accepts packet = false) :
    packet.carries path ≤
      balance ((c.run n moves).chain home).stage.ledger (c.escrow home) d := by
  have hzero := h.imbalance_run hmoves hroom hvoucher hplain hdistinct
  have hcarries : packet.carries path ≤ (c.run n moves).inFlight side path :=
    ChannelKeeper.carries_le_underway hcommitted hunaccepted path
  have hnonneg : ∀ side path, 0 ≤ (c.run n moves).inFlight side path :=
    fun _ _ => ChannelKeeper.underway_nonneg _ _ _
  have hhome := hnonneg home d.text
  have haway := hnonneg home.other ((c.ends home.other).extend d.text)
  rcases hpath with ⟨rfl, rfl⟩ | ⟨rfl, rfl⟩
  · omega
  · omega

/-- **Tokens are conserved between two chains.** After every run from the opening of the channel,
the escrow account of a chain holds of its own token `d` what the vouchers for `d` on the other
chain come to, with what is in flight in the packets of both chains: those that are committed and
were not credited. So it can pay for the refund of each of its own packets and for each packet
that comes back. No other path that was sent may hash to the voucher of `d`. -/
theorem escrow_backs_vouchers (c : Connection) (start : Network) (hstart : c.Opens start)
    (moves : List Move) (hmoves : ∀ mv ∈ moves, c.Allows mv)
    (hroom : ∀ side, ((c.run start moves).chain side).sent.length < UInt64.size - 1)
    (home : Side) (d : Denom) (hvoucher : d.isVoucher = false) (hplain : d.isPlain = true)
    (hdistinct : ∀ x ∈ ((c.run start moves).chain home).paths,
      c.voucher home.other x = c.voucher home.other d.text → x = d.text) :
    let n := c.run start moves
    (balance (n.chain home).stage.ledger (c.escrow home) d : Int) =
        supply (n.chain home.other).stage.ledger (c.voucher home.other d.text) +
          n.inFlight home d.text + n.inFlight home.other ((c.ends home.other).extend d.text) ∧
      (∀ packet, (n.chain home).stage.keeper.hasCommitment packet = true →
        (n.chain home.other).accepts packet = false →
        packet.carries d.text ≤ balance (n.chain home).stage.ledger (c.escrow home) d) ∧
      ∀ packet, (n.chain home.other).stage.keeper.hasCommitment packet = true →
        (n.chain home).accepts packet = false →
        packet.carries ((c.ends home.other).extend d.text) ≤
          balance (n.chain home).stage.ledger (c.escrow home) d := by
  intro n
  have hzero := hstart.imbalance_run hmoves hroom hvoucher hplain hdistinct
  refine ⟨?_, ?_, ?_⟩
  · simp only [n]
    omega
  · intro packet hcommitted hunaccepted
    exact hstart.carries_le_balance hmoves hroom hvoucher hplain hdistinct (.inl ⟨rfl, rfl⟩)
      hcommitted hunaccepted
  · intro packet hcommitted hunaccepted
    rw [← home.other_other] at hunaccepted
    exact hstart.carries_le_balance hmoves hroom hvoucher hplain hdistinct (.inr ⟨rfl, rfl⟩)
      hcommitted hunaccepted

end Connection

/-! ## Two sample chains -/

namespace Sample

/-- Two chains that have no registered tokens, connected by channels 0 and 1. -/
def connection : Connection where
  modules _ := { registry := ∅ }
  ends
    | .left => ⟨.transfer, .ofNat 0⟩
    | .right => ⟨.transfer, .ofNat 1⟩
  unregistered _ := rfl

/-- A chain on which the first user has some `rowan`. -/
def opened (side : Side) : Chain where
  stage := {
    keeper := ({ port := .transfer } : ChannelKeeper).openChannel (connection.ends side).channel
      (connection.ends side.other)
    ledger := ((∅ : MemoryLedger).registerModule transferModule ⟨true, true⟩).fund (user 1)
      ⟨rowan, 100⟩
    events := [] }
  sent := []
  answered := []

def network : Network :=
  ⟨opened .left, opened .right⟩

/-- A message of the first user of a side to the first user of the other. -/
def letter (side : Side) (token : Coin) : TransferMessage where
  sourcePort := .transfer
  sourceChannel := (connection.ends side).channel
  token := token
  sender := userText 1
  receiver := userText 1
  timeoutHeight := .zero
  timeoutTimestamp := 0

/-- The packet of the first letter from the left. -/
def parcel : Packet where
  sequence := 1
  sourcePort := .transfer
  sourceChannel := (connection.ends .left).channel
  destinationPort := .transfer
  destinationChannel := (connection.ends .right).channel
  data := (PacketData.mk "rowan" 60 (userText 1) (userText 1)).toBytes
  timeoutHeight := .zero
  timeoutTimestamp := 0

/-- Sixty `rowan` arrive on the right and ten more leave for it; twenty of those that arrived are
sent back. -/
def moves : List Move :=
  [⟨.left, .transfer (letter .left ⟨rowan, 60⟩)⟩,
   ⟨.right, .deliver parcel⟩,
   ⟨.left, .transfer (letter .left ⟨rowan, 10⟩)⟩,
   ⟨.right, .transfer (letter .right ⟨connection.voucher .right "rowan", 20⟩)⟩]

theorem opens_network : connection.Opens network := by
  intro side
  have hledger : (network.chain side).stage.ledger =
      ((∅ : MemoryLedger).registerModule transferModule ⟨true, true⟩).fund (user 1)
        ⟨rowan, 100⟩ := by
    cases side with
    | left => rfl
    | right => rfl
  have hescrow : connection.escrow side ≠ user 1 := by
    cases side with
    | left => decide +kernel
    | right => decide +kernel
  refine ⟨⟨{ port := .transfer }, ⟨rfl, rfl, rfl, rfl⟩, ?_, ?_⟩, ?_, ?_, ?_, ?_⟩
  · cases side with
    | left => rfl
    | right => rfl
  · cases side with
    | left => rfl
    | right => rfl
  · intro denom
    rw [hledger]
    simp only [MemoryLedger.fund, credit, LawfulLedger.balance_setSupply,
      LawfulLedger.balance_setBalance, hescrow, false_and, if_false]
    rfl
  · intro denom hvoucher
    have hne : denom ≠ rowan := by
      rintro rfl
      exact absurd hvoucher (by decide)
    rw [hledger]
    simp only [MemoryLedger.fund, credit, LawfulLedger.supply_setSupply, hne, if_false]
    rfl
  · cases side with
    | left => rfl
    | right => rfl
  · cases side with
    | left => rfl
    | right => rfl

end Sample

namespace Connection

/-- Of seventy `rowan` that left, forty are on the other side, ten are on their way and twenty are
on their way back. -/
theorem escrow_backs_vouchers_sample :
    balance ((Sample.connection.run Sample.network Sample.moves).chain .left).stage.ledger
        (Sample.connection.escrow .left) Sample.rowan = 70 ∧
      (balance ((Sample.connection.run Sample.network Sample.moves).chain .left).stage.ledger
          (Sample.connection.escrow .left) Sample.rowan : Int) =
        supply ((Sample.connection.run Sample.network Sample.moves).chain .right).stage.ledger
            (Sample.connection.voucher .right Sample.rowan.text) +
          (Sample.connection.run Sample.network Sample.moves).inFlight .left Sample.rowan.text +
          (Sample.connection.run Sample.network Sample.moves).inFlight .right
            ((Sample.connection.ends .right).extend Sample.rowan.text) := by
  have huser : ∀ side, Address.parse (Sample.userText 1) ≠ .ok (Sample.connection.escrow side) := by
    intro side hparse
    have hescrow : Sample.user 1 ≠ Sample.connection.escrow side := by
      cases side with
      | left => decide +kernel
      | right => decide +kernel
    exact hescrow (Except.ok.inj ((Address.parse_text (Sample.user 1)).symm.trans hparse))
  have hmoves : ∀ mv ∈ Sample.moves, Sample.connection.Allows mv := by
    intro mv hmv message hmessage
    simp only [Sample.moves, List.mem_cons, List.not_mem_nil, or_false] at hmv
    rcases hmv with rfl | rfl | rfl | rfl
    · cases hmessage
      exact ⟨huser _, huser _, .inr (by decide)⟩
    · cases hmessage
    · cases hmessage
      exact ⟨huser _, huser _, .inr (by decide)⟩
    · cases hmessage
      exact ⟨huser _, huser _, .inl (Trace.isVoucher_voucher _)⟩
  have hroom : ∀ side, ((Sample.connection.run Sample.network Sample.moves).chain
      side).sent.length < UInt64.size - 1 := by
    intro side
    cases side with
    | left => decide +kernel
    | right => decide +kernel
  obtain ⟨hbacked, -⟩ := escrow_backs_vouchers Sample.connection Sample.network Sample.opens_network
    Sample.moves hmoves hroom .left Sample.rowan (by decide) (by decide) (by decide +kernel)
  simp only [Side.other] at hbacked
  exact ⟨by decide +kernel, hbacked⟩

end Connection

end Interchain
