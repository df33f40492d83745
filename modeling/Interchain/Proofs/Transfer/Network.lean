import Interchain.Proofs.Transfer.Settlement

/-!
# Two connected chains

Two chains whose transfer modules have no registered tokens are connected by one channel. A move
puts a request to one of them: a message of a user, a packet that the other chain has committed and
that was not delivered before, the acknowledgement that the other chain has recorded, or a timeout
of a packet that was never delivered. Both chains stay sound in every run
(`Network.run_induction`): they hold what their own packets say, and all vouchers came over the
channel.
-/

set_option autoImplicit false

namespace Interchain

open Ledger

/-! ## Modules without registered tokens -/

theorem Plan.resolve_empty (d : Denom) : Plan.resolve ∅ d = none :=
  rfl

theorem Reversal.plan?_empty (packet : Packet) (data : PacketData) :
    Reversal.plan? ∅ packet data = none := by
  rw [Reversal.plan?, Reversal.recognize]
  cases (Trace.parse data.denom).localDenom with
  | error fault => rfl
  | ok d => simp [Plan.resolve_empty]

namespace TransferModule

variable {m : TransferModule}

/-- Without registered tokens every token leaves as it is. -/
theorem Ships.of_unregistered (hm : m.registry = ∅) {k : ChannelKeeper}
    {message : TransferMessage} {sh : Shipment} (hships : m.Ships k message sh) :
    sh.token = message.token ∧ sh.journal message =
      ChannelKeeper.departure ⟨message.sourcePort, message.sourceChannel⟩ sh.path sh.sender
        message.token := by
  cases hships.carries with
  | literal hpasses hliteral hkept =>
      refine ⟨hliteral, ?_⟩
      rw [Shipment.journal, Shipment.preparation, hkept, hliteral]
      rfl
  | converted hconverts hcounterpart hamount hpositive hdeducted =>
      have hnamed := hconverts.named
      rw [hm] at hnamed
      cases hnamed

theorem creditJournal_of_unregistered (hm : m.registry = ∅) (packet : Packet) (path : String)
    (receiver : Address) (coin : Coin) :
    m.creditJournal packet path receiver coin =
      ChannelKeeper.arrival packet path receiver coin := by
  rw [creditJournal, hm, Plan.resolve_empty, Plan.journalOf, List.append_nil]

theorem refundPostings_of_unregistered (hm : m.registry = ∅) (packet : Packet)
    (data : PacketData) (sender : Address) (denom : Denom) :
    m.refundPostings packet data sender denom =
      ChannelKeeper.refundJournal packet.source data.denom sender ⟨denom, data.amount⟩ := by
  rw [refundPostings, hm, Reversal.plan?_empty, Plan.journalOf, List.append_nil]

end TransferModule

/-! ## What requests leave alone -/

namespace TransferModule

variable {m : TransferModule} {k l : ChannelKeeper} {q : Request}

/-- Only opening a channel touches the channels. -/
theorem Turn.channels (h : m.Turn k q l)
    (hq : ∀ channel remote, q ≠ .openChannel channel remote) :
    l.port = k.port ∧ l.channels = k.channels := by
  cases h with
  | opened channel remote => exact absurd rfl (hq channel remote)
  | committed hships => exact ⟨rfl, rfl⟩
  | @arrived packet data denom hdecoded hdenom =>
      obtain ⟨traces, harrival⟩ := k.afterArrival_eq packet data.denom denom
      rw [harrival]
      exact ⟨rfl, rfl⟩
  | cleared hcommitted => exact ⟨rfl, rfl⟩
  | kept => exact ⟨rfl, rfl⟩

end TransferModule

/-! ## Chains and networks -/

/-- The two ends of the connection. -/
inductive Side where
  | left
  | right
deriving DecidableEq

namespace Side

def other : Side → Side
  | left => right
  | right => left

@[simp]
theorem other_other (side : Side) : side.other.other = side := by
  cases side with
  | left => rfl
  | right => rfl

theorem eq_or_eq_other (i side : Side) : i = side ∨ i = side.other := by
  cases i with
  | left => cases side with
    | left => exact .inl rfl
    | right => exact .inr rfl
  | right => cases side with
    | left => exact .inr rfl
    | right => exact .inl rfl

end Side

/-- The packet that was answered, with the acknowledgement. -/
def TransferModule.Served.acknowledged {β : Type} (e : Served β) :
    Option (Packet × Acknowledgement) :=
  match e.request, e.reply with
  | .receive packet, .received ack => some (packet, ack)
  | _, _ => none

/-- A chain with the packets that it sent and its answers to those that it received. -/
structure Chain where
  stage : Stage ChannelKeeper MemoryLedger
  sent : List Packet
  answered : List (Packet × Acknowledgement)

namespace Chain

/-- The chain after a request was served. -/
def serve (m : TransferModule) (ch : Chain) (q : Request) : Chain :=
  let e := m.record ch.stage q
  { stage := e.after
    sent := ch.sent ++ e.shipped.toList
    answered := e.acknowledged.toList ++ ch.answered }

/-- The acknowledgement of a packet, if it was received. -/
def answer? (ch : Chain) (packet : Packet) : Option Acknowledgement :=
  ch.answered.lookup packet

/-- Whether the packet was received and credited. -/
def accepts (ch : Chain) (packet : Packet) : Bool :=
  (ch.answer? packet).any Acknowledgement.isSuccess

/-- The paths of the tokens that were sent. -/
def paths (ch : Chain) : List String :=
  ch.sent.filterMap fun p =>
    match p.decodeData with
    | .ok data => some data.denom
    | .error _ => none

end Chain

/-- Two chains. -/
structure Network where
  left : Chain
  right : Chain

namespace Network

def chain (n : Network) : Side → Chain
  | .left => n.left
  | .right => n.right

def set (n : Network) (side : Side) (ch : Chain) : Network :=
  match side with
  | .left => { n with left := ch }
  | .right => { n with right := ch }

@[simp]
theorem chain_set_self (n : Network) (side : Side) (ch : Chain) :
    (n.set side ch).chain side = ch := by
  cases side with
  | left => rfl
  | right => rfl

@[simp]
theorem chain_set_other (n : Network) (side : Side) (ch : Chain) :
    (n.set side ch).chain side.other = n.chain side.other := by
  cases side with
  | left => rfl
  | right => rfl

end Network

/-- The modules of two chains, which have no registered tokens, and the ends of the channel between
them. -/
structure Connection where
  modules : Side → TransferModule
  ends : Side → Hop
  unregistered : ∀ side, (modules side).registry = ∅

/-- What a chain is given to do. -/
inductive Task where
  | transfer (message : TransferMessage)
  | deliver (packet : Packet)
  | acknowledge (packet : Packet)
  | timeout (packet : Packet)

/-- A task for one of the chains. -/
structure Move where
  side : Side
  task : Task

/-- The request that a move puts to its chain, if the move is possible: a packet is delivered once
and while it is committed, only what was recorded is acknowledged, and only what was never delivered
times out. -/
def Network.request? (n : Network) (mv : Move) : Option Request :=
  match mv.task with
  | .transfer message => some (.transfer message)
  | .deliver packet =>
      if (n.chain mv.side.other).stage.keeper.hasCommitment packet = true ∧
          (n.chain mv.side).answer? packet = none then
        some (.receive packet)
      else
        none
  | .acknowledge packet => ((n.chain mv.side.other).answer? packet).map (.acknowledge packet ·)
  | .timeout packet =>
      if (n.chain mv.side.other).answer? packet = none then some (.timeout packet) else none

namespace Connection

/-- The account on a side that holds the tokens of this side that are on the other. -/
def escrow (c : Connection) (side : Side) : Address :=
  .escrow (c.ends side).port (c.ends side).channel

/-- What a side holds a token under that the other side holds under the path. -/
def voucher (c : Connection) (side : Side) (path : String) : Denom :=
  Trace.voucher ((c.ends side).extend path)

/-- The network after a move. -/
def move (c : Connection) (n : Network) (mv : Move) : Network :=
  match n.request? mv with
  | some q => n.set mv.side ((n.chain mv.side).serve (c.modules mv.side) q)
  | none => n

/-- The network after a list of moves. -/
def run (c : Connection) (n : Network) (moves : List Move) : Network :=
  moves.foldl c.move n

theorem run_cons (c : Connection) (n : Network) (mv : Move) (moves : List Move) :
    c.run n (mv :: moves) = c.run (c.move n mv) moves :=
  rfl

/-- What is asked of a message: it is not from the escrow account of its side, not to that of the
other, and its token is a voucher or reads as a token of its chain. -/
structure AllowsMessage (c : Connection) (side : Side) (message : TransferMessage) : Prop where
  sender : Address.parse message.sender ≠ .ok (c.escrow side)
  receiver : Address.parse message.receiver ≠ .ok (c.escrow side.other)
  token : message.token.denom.isVoucher = true ∨ message.token.denom.isPlain = true

/-- Whether a move is no message or one that is allowed. -/
def Allows (c : Connection) (mv : Move) : Prop :=
  ∀ message, mv.task = .transfer message → c.AllowsMessage mv.side message

/-- How a chain starts: with a fresh keeper after the channel was opened, without vouchers, and with
nothing in the escrow account. -/
structure OpensChain (c : Connection) (side : Side) (ch : Chain) : Prop where
  keeper : ∃ k : ChannelKeeper, k.Fresh ∧ k.port = (c.ends side).port ∧
    ch.stage.keeper = k.openChannel (c.ends side).channel (c.ends side.other)
  escrow : ∀ denom, balance ch.stage.ledger (c.escrow side) denom = 0
  vouchers : ∀ denom, denom.isVoucher = true → supply ch.stage.ledger denom = 0
  sent : ch.sent = []
  answered : ch.answered = []

/-- How both chains start. -/
def Opens (c : Connection) (n : Network) : Prop :=
  ∀ side, c.OpensChain side (n.chain side)

end Connection

/-! ## Sound chains -/

namespace Connection

/-- Whether a path is that of a token of the chain itself, or of one that came over the channel,
where `paths` are the paths of the tokens that each side sends. -/
def Sends (c : Connection) (paths : Side → List String) (side : Side) (path : String) : Prop :=
  (Trace.parse path).isNative = true ∨ ∃ x ∈ paths side.other, path = (c.ends side).extend x

/-- A packet that a chain sent for an allowed message. -/
structure Posted (c : Connection) (paths : Side → List String) (side : Side) (p : Packet)
    (data : PacketData) : Prop where
  source : p.source = c.ends side
  destination : p.destination = c.ends side.other
  decoded : p.decodeData = .ok data
  sender : Address.parse data.sender ≠ .ok (c.escrow side)
  receiver : Address.parse data.receiver ≠ .ok (c.escrow side.other)
  path : c.Sends paths side data.denom

/-- What holds of a chain in a run. -/
structure SoundChain (c : Connection) (paths : Side → List String) (side : Side) (ch : Chain) :
    Prop where
  port : ch.stage.keeper.port = (c.ends side).port
  channel : ∀ channel remote, ch.stage.keeper.channels.get? channel = some remote →
    channel = (c.ends side).channel ∧ remote = c.ends side.other
  books : ∃ count settled, ch.stage.keeper.Books count ch.sent settled ∧
    ∀ channel, count channel ≤ ch.sent.length
  filed : ch.stage.keeper.Filed
  traced : ch.stage.keeper.Traced
  known : ∀ denom trace, ch.stage.keeper.traces.get? denom = some trace →
    ∃ x ∈ paths side.other, trace.fullPath = (c.ends side).extend x
  posted : ∀ p ∈ ch.sent, ∃ data, c.Posted paths side p data

/-- What holds of the requests in a run. -/
inductive Requests (c : Connection) (paths : Side → List String) (side : Side) :
    Request → Prop where
  | transfer {message : TransferMessage} (allows : c.AllowsMessage side message) :
      Requests c paths side (.transfer message)
  | receive {packet : Packet} {data : PacketData}
      (posted : c.Posted paths side.other packet data) (path : data.denom ∈ paths side.other) :
      Requests c paths side (.receive packet)
  | acknowledge (packet : Packet) (ack : Acknowledgement) :
      Requests c paths side (.acknowledge packet ack)
  | timeout (packet : Packet) : Requests c paths side (.timeout packet)

variable {c : Connection} {paths : Side → List String} {side : Side} {ch : Chain}

/-- A chain with an open channel is sound. -/
theorem OpensChain.sound (h : c.OpensChain side ch) (paths : Side → List String) :
    c.SoundChain paths side ch := by
  obtain ⟨⟨k, hfresh, hport, hkeeper⟩, -, -, hsent, -⟩ := h
  have hbooks : (k.openChannel (c.ends side).channel (c.ends side.other)).Books (fun _ => 0)
      [] [] :=
    (ChannelKeeper.books_of_fresh hfresh).congr (fun _ => ChannelKeeper.sequenceOf_openChannel) rfl
  refine ⟨?_, ?_, ?_, ?_, ?_, ?_, ?_⟩
  · rw [hkeeper]
    exact hport
  · intro channel remote hchannel
    rw [hkeeper, ChannelKeeper.openChannel, hfresh.channels] at hchannel
    rcases FiniteMap.get?_insert_eq_some_iff.1 hchannel with ⟨hopened, hremote⟩ | ⟨-, hnone⟩
    · exact ⟨hopened, hremote.symm⟩
    · cases hnone
  · refine ⟨fun _ => 0, [], ?_, fun _ => Nat.zero_le _⟩
    rw [hkeeper, hsent]
    exact hbooks
  · intro key p hp
    rw [hkeeper, ChannelKeeper.openChannel, hfresh.commitments] at hp
    cases hp
  · rw [hkeeper]
    exact (ChannelKeeper.traced_of_empty hfresh.traces).congr rfl
  · intro denom trace htrace
    rw [hkeeper, ChannelKeeper.openChannel, hfresh.traces] at htrace
    cases htrace
  · intro p hp
    rw [hsent] at hp
    cases hp

/-- The path of a token that a sound chain holds is one that it may send. -/
theorem SoundChain.sends (h : c.SoundChain paths side ch) {denom : Denom} {path : String}
    (hpath : ch.stage.keeper.fullPath denom = .ok path)
    (hdenom : denom.isVoucher = true ∨ denom.isPlain = true) : c.Sends paths side path := by
  cases hvoucher : denom.isVoucher with
  | true =>
      obtain ⟨trace, hstored, rfl⟩ := ChannelKeeper.exists_trace_of_fullPath hvoucher hpath
      exact .inr (h.known denom trace hstored)
  | false =>
      rw [ChannelKeeper.eq_text_of_fullPath hvoucher hpath]
      exact .inl (hdenom.resolve_left (by simp [hvoucher]))

/-- The packet of a shipment of a sound chain is posted. -/
theorem SoundChain.posted_packet (h : c.SoundChain paths side ch) {m : TransferModule}
    (hm : m.registry = ∅) {message : TransferMessage} {sh : Shipment}
    (hships : m.Ships ch.stage.keeper message sh) (hallows : c.AllowsMessage side message) :
    c.Posted paths side (sh.packet ch.stage.keeper message) (sh.data message) := by
  have hadmits := hships.admits
  -- the only open channel leads to the other side
  obtain ⟨hchannel, hremote⟩ := h.channel _ _ hadmits.channel
  have hport : message.sourcePort = (c.ends side).port := by
    rw [← h.port]
    exact hadmits.port
  have hpath : ch.stage.keeper.fullPath message.token.denom = .ok sh.path := by
    rw [← (TransferModule.Ships.of_unregistered hm hships).1]
    exact hadmits.path
  refine ⟨?_, ?_, sh.decodeData_packet _ _, hallows.sender, hallows.receiver,
    h.sends hpath hallows.token⟩
  · show (⟨message.sourcePort, message.sourceChannel⟩ : Hop) = c.ends side
    rw [hport, show message.sourceChannel = _ from hchannel]
  · rw [← hremote]
    rfl

/-- A sound chain keeps its books, as long as there are numbers left. -/
theorem SoundChain.books_serve (h : c.SoundChain paths side ch) {m : TransferModule} {q : Request}
    (hroom : (ch.serve m q).sent.length < UInt64.size - 1) :
    ∃ count settled, (ch.serve m q).stage.keeper.Books count (ch.serve m q).sent settled ∧
      ∀ channel, count channel ≤ (ch.serve m q).sent.length := by
  -- no channel has more packets than the chain, and a request sends one at most
  obtain ⟨count, settled, hbooks, hcount⟩ := h.books
  have hstep := m.step_serve ch.stage q
  have hsent : (ch.serve m q).sent = ch.sent ++ (m.record ch.stage q).shipped.toList := rfl
  have hlength : ∀ channel, count channel +
      (if (m.record ch.stage q).sendsOn channel then 1 else 0) ≤ (ch.serve m q).sent.length := by
    intro channel
    have hle := hcount channel
    rw [hsent, List.length_append]
    cases hsends : (m.record ch.stage q).sendsOn channel with
    | false => simp; omega
    | true =>
        obtain ⟨p, hp⟩ := TransferModule.exists_shipped_of_sendsOn hstep hsends
        have hshipped : (m.record ch.stage q).shipped = some p := hp
        simp [hshipped]
        omega
  have hroomChannel : ∀ channel, count channel +
      (if (m.record ch.stage q).sendsOn channel then 1 else 0) < UInt64.size - 1 :=
    fun channel => Nat.lt_of_le_of_lt (hlength channel) hroom
  exact ⟨_, _, TransferModule.books_step hbooks hstep hroomChannel, hlength⟩

/-- What a sound chain learns came over the channel. -/
theorem SoundChain.known_serve (h : c.SoundChain paths side ch) {m : TransferModule} {q : Request}
    (hq : c.Requests paths side q) {denom : Denom} {trace : Trace}
    (htrace : (ch.serve m q).stage.keeper.traces.get? denom = some trace) :
    ∃ x ∈ paths side.other, trace.fullPath = (c.ends side).extend x := by
  have hturn : m.Turn ch.stage.keeper q (ch.serve m q).stage.keeper :=
    TransferModule.turn_of_step (m.step_serve ch.stage q)
  revert htrace
  generalize (ch.serve m q).stage.keeper = l at hturn
  intro htrace
  cases hturn with
  | opened channel remote => cases hq
  | committed hships => exact h.known denom trace htrace
  | arrived hdecoded hdenom =>
      rcases ChannelKeeper.traces_of_afterArrival htrace with hknown | ⟨-, -, rfl⟩
      · exact h.known denom trace hknown
      · -- what is new came in a packet that the other side posted
        cases hq with
        | receive hposted hpath =>
            cases hposted.decoded.symm.trans hdecoded
            refine ⟨_, hpath, ?_⟩
            rw [Trace.fullPath_addHop, Trace.fullPath_parse, hposted.destination, Side.other_other]
  | cleared hcommitted => exact h.known denom trace htrace
  | kept => exact h.known denom trace htrace

/-- What a sound chain sends is posted. -/
theorem SoundChain.posted_serve (h : c.SoundChain paths side ch) {m : TransferModule}
    (hm : m.registry = ∅) {q : Request} (hq : c.Requests paths side q) {p : Packet}
    (hp : p ∈ (ch.serve m q).sent) : ∃ data, c.Posted paths side p data := by
  rcases List.mem_append.1 hp with hp | hp
  · exact h.posted p hp
  have hp : (m.record ch.stage q).shipped = some p := Option.mem_toList.1 hp
  have hstep := m.step_serve ch.stage q
  rw [TransferModule.record] at hp
  revert hp
  generalize (m.serve ch.stage q).2 = t at hstep
  generalize (m.serve ch.stage q).1 = reply at hstep
  intro hp
  cases hstep with
  | opened channel remote => cases hp
  | @sent message sh _ hships hposts hkeeper hevents =>
      rw [TransferModule.shipped_of_commit hkeeper] at hp
      cases hp
      cases hq with
      | transfer hallows => exact ⟨_, h.posted_packet hm hships hallows⟩
  | credited hcredits hposts hkeeper hevents => cases hp
  | rejected hledger hkeeper hevents => cases hp
  | refunded hfails hrefunds hposts hkeeper hevents =>
      rw [TransferModule.Served.shipped_eq_none fun _ => Reply.noConfusion] at hp
      cases hp
  | acknowledged hcommitted hdecoded => cases hp
  | refused _ error =>
      rw [TransferModule.Served.shipped_eq_none fun _ => Reply.noConfusion] at hp
      cases hp

/-- **A sound chain stays sound.** -/
theorem SoundChain.serve (h : c.SoundChain paths side ch) {m : TransferModule}
    (hm : m.registry = ∅) {q : Request} (hq : c.Requests paths side q)
    (hroom : (ch.serve m q).sent.length < UInt64.size - 1) :
    c.SoundChain paths side (ch.serve m q) := by
  have hturn : m.Turn ch.stage.keeper q (ch.serve m q).stage.keeper :=
    TransferModule.turn_of_step (m.step_serve ch.stage q)
  have hstatic := hturn.channels fun channel remote hopen => by
    rw [hopen] at hq
    cases hq
  exact {
    port := hstatic.1.trans h.port
    channel := fun channel remote hchannel => h.channel channel remote (hstatic.2 ▸ hchannel)
    books := h.books_serve hroom
    filed := hturn.filed h.filed
    traced := hturn.traced h.traced
    known := fun _ _ => h.known_serve hq
    posted := fun _ => h.posted_serve hm hq }

end Connection

/-! ## Sound networks -/

namespace Chain

theorem mem_paths {ch : Chain} {p : Packet} {data : PacketData} (hp : p ∈ ch.sent)
    (hdata : p.decodeData = .ok data) : data.denom ∈ ch.paths :=
  List.mem_filterMap.2 ⟨p, hp, by rw [hdata]⟩

theorem paths_subset {ch dh : Chain} (h : ch.sent <+: dh.sent) : ∀ x ∈ ch.paths, x ∈ dh.paths :=
  fun _ hx => (h.sublist.filterMap _).subset hx

/-- A request answers at most the packet that it brings. -/
theorem answer?_serve (ch : Chain) (m : TransferModule) {q : Request} {p : Packet}
    (h : q ≠ .receive p) : (ch.serve m q).answer? p = ch.answer? p := by
  unfold answer? serve TransferModule.Served.acknowledged TransferModule.record
  cases q with
  | receive packet =>
      -- the answer to another packet is put in front
      have hne : (p == packet) = false := by
        simp only [beq_eq_false_iff_ne]
        rintro rfl
        exact h rfl
      cases (m.serve ch.stage (.receive packet)).1 with
      | received ack => simp [List.lookup_cons, hne]
      | opened => rfl
      | sent response => rfl
      | settled outcome => rfl
      | refused error => rfl
  | openChannel channel remote => rfl
  | transfer message => rfl
  | acknowledge packet ack => rfl
  | timeout packet => rfl

/-- What is answered is accepted if the answer says so. -/
theorem accepts_of_answer {ch : Chain} {p : Packet} {ack : Acknowledgement}
    (h : ch.answer? p = some ack) : ch.accepts p = ack.isSuccess := by
  rw [accepts, h]
  rfl

/-- What is not answered is not accepted. -/
theorem accepts_of_unanswered {ch : Chain} {p : Packet} (h : ch.answer? p = none) :
    ch.accepts p = false := by
  rw [accepts, h]
  rfl

/-- A request accepts at most the packet that it brings. -/
theorem accepts_serve (ch : Chain) (m : TransferModule) {q : Request} {p : Packet}
    (h : q ≠ .receive p) : (ch.serve m q).accepts p = ch.accepts p := by
  rw [accepts, accepts, answer?_serve ch m h]

/-- A packet that is received is answered, and this is the answer from then on. -/
theorem serve_receive (ch : Chain) (m : TransferModule) (p : Packet) :
    ∃ ack, (m.record ch.stage (.receive p)).acknowledged = some (p, ack) ∧
      (ch.serve m (.receive p)).answer? p = some ack := by
  obtain ⟨ack, t, h⟩ := TransferModule.exists_onPacket m p ch.stage
  have hacknowledged : (m.record ch.stage (.receive p)).acknowledged = some (p, ack) := by
    have hserve := TransferModule.serve_of_onPacket h
    rw [TransferModule.record, hserve]
    rfl
  refine ⟨ack, hacknowledged, ?_⟩
  rw [answer?, serve]
  simp [hacknowledged]

end Chain

/-- What holds of the network in a run, where `paths` are the paths of the tokens that each side
sends. -/
structure Network.Sound (c : Connection) (paths : Side → List String) (n : Network) : Prop where
  chain : ∀ side, c.SoundChain paths side (n.chain side)
  paths : ∀ side, ∀ x ∈ (n.chain side).paths, x ∈ paths side
  answered : ∀ side packet ack, (n.chain side).answer? packet = some ack →
    packet ∈ (n.chain side.other).sent

namespace Network

variable {c : Connection} {paths : Side → List String} {n : Network} {mv : Move}

theorem move_of_request {q : Request} (hq : n.request? mv = some q) :
    c.move n mv = n.set mv.side ((n.chain mv.side).serve (c.modules mv.side) q) := by
  rw [Connection.move, hq]

theorem move_of_none (hq : n.request? mv = none) : c.move n mv = n := by
  rw [Connection.move, hq]

/-- What a network puts to one of its chains. -/
inductive Offers (c : Connection) (n : Network) (side : Side) : Request → Prop where
  | transfer {message : TransferMessage} (allows : c.AllowsMessage side message) :
      Offers c n side (.transfer message)
  | receive {packet : Packet}
      (committed : (n.chain side.other).stage.keeper.hasCommitment packet = true)
      (undelivered : (n.chain side).answer? packet = none) : Offers c n side (.receive packet)
  | acknowledge {packet : Packet} {ack : Acknowledgement}
      (recorded : (n.chain side.other).answer? packet = some ack) :
      Offers c n side (.acknowledge packet ack)
  | timeout {packet : Packet} (undelivered : (n.chain side.other).answer? packet = none) :
      Offers c n side (.timeout packet)

theorem offers_of_request (hmv : c.Allows mv) {q : Request} (hq : n.request? mv = some q) :
    n.Offers c mv.side q := by
  obtain ⟨side, task⟩ := mv
  rw [request?] at hq
  cases task with
  | transfer message =>
      cases hq
      exact .transfer (hmv message rfl)
  | deliver packet =>
      obtain ⟨⟨hcommitted, hundelivered⟩, hq⟩ := Option.ite_none_right_eq_some.1 hq
      cases hq
      exact .receive hcommitted hundelivered
  | acknowledge packet =>
      obtain ⟨ack, hack, rfl⟩ := Option.map_eq_some_iff.1 hq
      exact .acknowledge hack
  | timeout packet =>
      obtain ⟨hundelivered, hq⟩ := Option.ite_none_right_eq_some.1 hq
      cases hq
      exact .timeout hundelivered

namespace Sound

/-- A committed packet was sent. -/
theorem sent_of_committed (h : n.Sound c paths) {side : Side} {packet : Packet}
    (hcommitted : (n.chain side).stage.keeper.hasCommitment packet = true) :
    packet ∈ (n.chain side).sent := by
  obtain ⟨count, settled, hbooks, -⟩ := (h.chain side).books
  exact ((hbooks.committed packet).1 hcommitted).1

/-- What a sound network puts to a chain is what a sound chain expects. -/
theorem requests (h : n.Sound c paths) {side : Side} {q : Request} (hq : n.Offers c side q) :
    c.Requests paths side q := by
  cases hq with
  | transfer hallows => exact .transfer hallows
  | @receive packet hcommitted hundelivered =>
      have hsent := h.sent_of_committed hcommitted
      obtain ⟨data, hposted⟩ := (h.chain side.other).posted packet hsent
      exact .receive hposted (h.paths side.other _ (Chain.mem_paths hsent hposted.decoded))
  | acknowledge hrecorded => exact .acknowledge _ _
  | timeout hundelivered => exact .timeout _

/-- **A sound network stays sound**, as long as there are numbers left. -/
theorem serve (h : n.Sound c paths) {side : Side} {q : Request} (hq : n.Offers c side q)
    (hroom : ((n.chain side).serve (c.modules side) q).sent.length < UInt64.size - 1)
    (hpaths : ∀ x ∈ ((n.chain side).serve (c.modules side) q).paths, x ∈ paths side) :
    (n.set side ((n.chain side).serve (c.modules side) q)).Sound c paths where
  chain i := by
    rcases i.eq_or_eq_other side with rfl | rfl
    · rw [chain_set_self]
      exact (h.chain i).serve (c.unregistered i) (h.requests hq) hroom
    · rw [chain_set_other]
      exact h.chain side.other
  paths i := by
    rcases i.eq_or_eq_other side with rfl | rfl
    · rw [chain_set_self]
      exact hpaths
    · rw [chain_set_other]
      exact h.paths side.other
  answered i packet ack hanswer := by
    rcases i.eq_or_eq_other side with rfl | rfl
    · rw [chain_set_self] at hanswer
      rw [chain_set_other]
      -- only a delivery answers a packet, and what is delivered is committed
      by_cases hreceive : q = .receive packet
      · subst hreceive
        cases hq with
        | receive hcommitted hundelivered => exact h.sent_of_committed hcommitted
      · rw [Chain.answer?_serve _ _ hreceive] at hanswer
        exact h.answered i packet ack hanswer
    · rw [chain_set_other] at hanswer
      have hsent := h.answered side.other packet ack hanswer
      rw [Side.other_other] at hsent ⊢
      rw [chain_set_self]
      exact List.mem_append_left _ hsent

end Sound

/-- Packets that were sent stay recorded. -/
theorem sent_subset_move (c : Connection) (n : Network) (mv : Move) (side : Side) :
    (n.chain side).sent <+: ((c.move n mv).chain side).sent := by
  cases hq : n.request? mv with
  | none => simp only [move_of_none hq, List.prefix_refl]
  | some q =>
      simp only [move_of_request hq]
      rcases side.eq_or_eq_other mv.side with rfl | rfl
      · simp only [chain_set_self, Chain.serve, List.prefix_append]
      · simp only [chain_set_other, List.prefix_refl]

theorem sent_subset_run (c : Connection) (n : Network) (moves : List Move) (side : Side) :
    (n.chain side).sent <+: ((c.run n moves).chain side).sent := by
  induction moves generalizing n with
  | nil => exact List.prefix_refl _
  | cons mv moves ih => exact (sent_subset_move c n mv side).trans (ih (c.move n mv))

/-- **What every possible move preserves in a sound network holds after a run** that does not run
out of numbers, where `paths` has all paths that it sends. -/
theorem run_induction {P : Network → Prop} {moves : List Move} (hn : n.Sound c paths) (hP : P n)
    (hmoves : ∀ mv ∈ moves, c.Allows mv)
    (hroom : ∀ side, ((c.run n moves).chain side).sent.length < UInt64.size - 1)
    (hpaths : ∀ side, ∀ x ∈ ((c.run n moves).chain side).paths, x ∈ paths side)
    (hstep : ∀ n : Network, n.Sound c paths → P n → ∀ side q, n.Offers c side q →
      (n.set side ((n.chain side).serve (c.modules side) q)).Sound c paths →
      P (n.set side ((n.chain side).serve (c.modules side) q))) :
    (c.run n moves).Sound c paths ∧ P (c.run n moves) := by
  induction moves generalizing n with
  | nil => exact ⟨hn, hP⟩
  | cons mv moves ih =>
      have hallows := hmoves mv List.mem_cons_self
      have hrest : ∀ mv ∈ moves, c.Allows mv := fun mv hmv => hmoves mv (List.mem_cons_of_mem _ hmv)
      rw [Connection.run_cons] at hroom hpaths ⊢
      cases hq : n.request? mv with
      | none =>
          rw [move_of_none hq] at hroom hpaths ⊢
          exact ih hn hP hrest hroom hpaths
      | some q =>
          have hoffers := offers_of_request hallows hq
          rw [move_of_request hq] at hroom hpaths ⊢
          -- what was sent so far is a part of what is sent in all
          have hprefix := sent_subset_run c
            (n.set mv.side ((n.chain mv.side).serve (c.modules mv.side) q)) moves mv.side
          rw [chain_set_self] at hprefix
          have hsound := hn.serve hoffers
            (Nat.lt_of_le_of_lt hprefix.length_le (hroom mv.side))
            fun x hx => hpaths mv.side x (Chain.paths_subset hprefix x hx)
          exact ih hsound (hstep n hn hP mv.side q hoffers hsound) hrest hroom hpaths

end Network

end Interchain
