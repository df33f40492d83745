import Interchain.Proofs.Registry
import Interchain.Proofs.Transfer.Module
import Interchain.Proofs.Transport.Commitments
import Interchain.Proofs.Transport.Traces
import Interchain.Sample

/-!
# Runs of the transfer module

A run serves requests one after the other. What a single request can do to the stage is said
once, by `Step`: `step_serve` says that serving takes such a step, so that what every step
preserves is preserved by every run (`run_induction`). What becomes of the keeper alone is told by
its `Turn` (`turn_of_step`), and the ledger is posted a journal (`exists_journal_of_step`). The
history of a run keeps each request with its reply and the stages around it.
-/

set_option autoImplicit false

namespace Interchain

open Ledger

/-- What the module is asked to do. -/
inductive Request where
  /-- To open a channel, or to give an open one a new remote end. -/
  | openChannel (channel : Channel) (remote : Hop)
  | transfer (message : TransferMessage)
  | receive (packet : Packet)
  | acknowledge (packet : Packet) (ack : Acknowledgement)
  | timeout (packet : Packet)
deriving DecidableEq

/-- What the module answers. -/
inductive Reply where
  | opened
  | sent (response : TransferResponse)
  | received (ack : Acknowledgement)
  | settled (outcome : Option ReversalOutcome)
  | refused (error : TransferError)
deriving DecidableEq

namespace Request

/-- The packet that the request is a callback on. -/
def settling : Request → Option Packet
  | .acknowledge packet _ => some packet
  | .timeout packet => some packet
  | _ => none

/-- The packet that the request says has failed. -/
def failing : Request → Option Packet
  | .acknowledge packet (.error _) => some packet
  | .timeout packet => some packet
  | _ => none

/-- What is reported last when the request settles a packet with `data`. -/
def closing (data : PacketData) : Request → EventLog
  | .acknowledge _ ack => [TransferModule.acknowledgeReport data ack]
  | .timeout _ => [TransferModule.timeoutReport data]
  | _ => []

end Request

namespace TransferModule

variable {β : Type} [Ledger β]

omit [Ledger β] in
/-- A result as a reply, and the stage that it leaves. -/
def answer {α : Type} (reply : α → Reply) :
    EStateM.Result TransferError (Stage ChannelKeeper β) α → Reply × Stage ChannelKeeper β
  | .ok a t => (reply a, t)
  | .error e t => (.refused e, t)

/-- The reply to a request, and the stage after it. -/
def serve (m : TransferModule) (s : Stage ChannelKeeper β) :
    Request → Reply × Stage ChannelKeeper β
  | .openChannel channel remote =>
      (.opened, { s with keeper := s.keeper.openChannel channel remote })
  | .transfer message => answer .sent (m.transfer message s)
  | .receive packet => answer .received (m.onPacket packet s)
  | .acknowledge packet ack => answer .settled (m.onAcknowledgement packet ack s)
  | .timeout packet => answer (.settled ∘ some) (m.onTimeout packet s)

/-- The stage after a list of requests. -/
def run (m : TransferModule) (s : Stage ChannelKeeper β) (qs : List Request) :
    Stage ChannelKeeper β :=
  qs.foldl (fun s q => (m.serve s q).2) s

variable (m : TransferModule) {s t : Stage ChannelKeeper β}

@[simp]
theorem run_nil : m.run s [] = s :=
  rfl

variable {m} in
/-- The answer to a packet is the reply to the request to receive it. -/
theorem serve_of_onPacket {packet : Packet} {ack : Acknowledgement}
    (h : m.onPacket packet s = .ok ack t) : m.serve s (.receive packet) = (.received ack, t) := by
  rw [serve, h]
  rfl

/-- What holds at the start and is preserved by each request of a run holds after the run. -/
theorem run_induction {P : Stage ChannelKeeper β → Prop} {qs : List Request} (hs : P s)
    (hstep : ∀ t, P t → ∀ q ∈ qs, P (m.serve t q).2) : P (m.run s qs) := by
  induction qs generalizing s with
  | nil => exact hs
  | cons q qs ih =>
      exact ih (hstep s hs q List.mem_cons_self)
        fun t ht r hr => hstep t ht r (List.mem_cons_of_mem _ hr)

/-! ## Steps -/

/-- Whether a packet with `data` is refunded to `sender`, as an amount of `denom`. -/
structure Refunds (k : ChannelKeeper) (packet : Packet) (data : PacketData) (sender : Address)
    (denom : Denom) : Prop where
  committed : k.hasCommitment packet = true
  decoded : packet.decodeData = .ok data
  sender : Address.parse data.sender = .ok sender
  denom : (Trace.parse data.denom).localDenom = .ok denom

/-- What a request can do to the stage, with the reply to it. -/
inductive Step (s : Stage ChannelKeeper β) :
    Request → Reply → Stage ChannelKeeper β → Prop where
  | opened (channel : Channel) (remote : Hop) :
      Step s (.openChannel channel remote) .opened
        { s with keeper := s.keeper.openChannel channel remote }
  | sent {message : TransferMessage} {sh : Shipment} {t : Stage ChannelKeeper β}
      (ships : m.Ships s.keeper message sh)
      (posts : Journal.post (view s.ledger) (sh.journal message) = .ok (view t.ledger))
      (keeper : t.keeper = s.keeper.commit (sh.packet s.keeper message))
      (events : t.events = s.events ++ sh.report message) :
      Step s (.transfer message) (.sent ⟨s.keeper.sequenceOf message.sourceChannel⟩) t
  | credited {packet : Packet} {data : PacketData} {receiver : Address} {coin : Coin}
      {t : Stage ChannelKeeper β} (credits : m.Credits s.keeper packet data receiver coin)
      (posts : Journal.post (view s.ledger) (m.creditJournal packet data.denom receiver coin) =
        .ok (view t.ledger))
      (keeper : t.keeper = s.keeper.afterArrival packet data.denom coin.denom)
      (events : t.events = s.events ++ (s.keeper.arrivalReport packet data.denom coin.denom ++
        [ChannelKeeper.receiveReport data] ++
        convertReport (Plan.resolve m.registry coin.denom) receiver coin.amount)) :
      Step s (.receive packet) (.received .success) t
  | rejected {packet : Packet} {e : TransferError} {t : Stage ChannelKeeper β}
      (ledger : t.ledger = s.ledger)
      (keeper : t.keeper = s.keeper ∨ ∃ data denom, packet.decodeData = .ok data ∧
        (ChannelKeeper.arrivalTrace packet data.denom).localDenom = .ok denom ∧
        t.keeper = s.keeper.afterArrival packet data.denom denom)
      (events : t.events = s.events ++ [failureReport e]) :
      Step s (.receive packet) (.received (.error e.message)) t
  | refunded {q : Request} {packet : Packet} {data : PacketData} {sender : Address}
      {denom : Denom} {t : Stage ChannelKeeper β} (fails : q.failing = some packet)
      (refunds : Refunds s.keeper packet data sender denom)
      (posts : Journal.post (view s.ledger) (m.refundPostings packet data sender denom) =
        .ok (view t.ledger))
      (keeper : t.keeper = s.keeper.deleteCommitment packet.key)
      (events : t.events = s.events ++
        Reversal.report (Reversal.plan? m.registry packet data) sender data.amount ++
        q.closing data) :
      Step s q (.settled (some (Reversal.outcome (Reversal.plan? m.registry packet data)
        data.amount))) t
  | acknowledged {packet : Packet} {text : String} {data : PacketData}
      (committed : s.keeper.hasCommitment packet = true)
      (decoded : packet.decodeData = .ok data) :
      Step s (.acknowledge packet (.result text)) (.settled none)
        ⟨s.keeper.deleteCommitment packet.key, s.ledger,
          s.events ++ [acknowledgeReport data (.result text)]⟩
  | refused (q : Request) (e : TransferError) : Step s q (.refused e) s

/-- What a request can do to the keeper. -/
inductive Turn (k : ChannelKeeper) : Request → ChannelKeeper → Prop where
  | opened (channel : Channel) (remote : Hop) :
      Turn k (.openChannel channel remote) (k.openChannel channel remote)
  | committed {message : TransferMessage} {sh : Shipment} (ships : m.Ships k message sh) :
      Turn k (.transfer message) (k.commit (sh.packet k message))
  | arrived {packet : Packet} {data : PacketData} {denom : Denom}
      (decoded : packet.decodeData = .ok data)
      (held : (ChannelKeeper.arrivalTrace packet data.denom).localDenom = .ok denom) :
      Turn k (.receive packet) (k.afterArrival packet data.denom denom)
  | cleared {q : Request} {packet : Packet} (committed : k.hasCommitment packet = true) :
      Turn k q (k.deleteCommitment packet.key)
  | kept (q : Request) : Turn k q k

variable {m} in
/-- The refund of a failed packet is a step, whatever told of the failure. -/
theorem step_of_refund [LawfulLedger β] {q : Request} {packet : Packet} {data : PacketData}
    {o : ReversalOutcome} {u : Stage ChannelKeeper β} (hq : q.failing = some packet)
    (hcommitted : s.keeper.hasCommitment packet = true) (hdecoded : packet.decodeData = .ok data)
    (hrefund : m.refund packet data s = .ok o u) :
    m.Step s q (.settled (some o)) { u with events := u.events ++ q.closing data } := by
  obtain ⟨sender, denom, hsender, hdenom, hposts, rfl, hkeeper, hevents⟩ := refund_eq_ok hrefund
  refine .refunded hq ⟨hcommitted, hdecoded, hsender, hdenom⟩ hposts hkeeper ?_
  rw [hevents]

/-- **Serving a request takes a step.** -/
theorem step_serve [LawfulLedger β] (s : Stage ChannelKeeper β) (q : Request) :
    m.Step s q (m.serve s q).1 (m.serve s q).2 := by
  cases q with
  | openChannel channel remote => exact .opened channel remote
  | transfer message =>
      simp only [serve]
      cases h : m.transfer message s with
      | ok response t =>
          obtain ⟨sh, hships, hposts, rfl, hkeeper, hevents⟩ := transfer_eq_ok h
          exact .sent hships hposts hkeeper hevents
      | error e t =>
          cases transfer_eq_error h
          exact .refused _ e
  | receive packet =>
      simp only [serve]
      obtain ⟨ack, t, h⟩ := exists_onPacket m packet s
      rw [h]
      -- a packet that cannot be credited is answered too
      rcases onPacket_eq_ok_iff.1 h with ⟨credited, hreceive, rfl⟩ | ⟨e, u, hreceive, rfl, rfl⟩
      · obtain ⟨data, receiver, coin, hcredits, hposts, hkeeper, hevents⟩ :=
          receive_eq_ok hreceive
        exact .credited hcredits hposts hkeeper hevents
      · obtain ⟨hledger, hevents, hlearns⟩ := receive_eq_error hreceive
        refine .rejected hledger hlearns.eq_or_arrived ?_
        show u.events ++ [failureReport e] = _
        rw [hevents]
  | acknowledge packet ack =>
      simp only [serve]
      cases h : m.onAcknowledgement packet ack s with
      | ok o t =>
          cases ack with
          | result text =>
              obtain ⟨hcommitted, data, hdata, rfl, rfl⟩ :=
                onAcknowledgement_result_eq_ok_iff.1 h
              exact .acknowledged hcommitted hdata
          | error reason =>
              obtain ⟨hcommitted, data, hdata, outcome, u, hrefund, rfl, rfl⟩ :=
                onAcknowledgement_error_eq_ok_iff.1 h
              exact step_of_refund rfl hcommitted hdata hrefund
      | error e t =>
          cases onAcknowledgement_eq_error h
          exact .refused _ e
  | timeout packet =>
      simp only [serve]
      cases h : m.onTimeout packet s with
      | ok o t =>
          obtain ⟨hcommitted, data, hdata, u, hrefund, rfl⟩ := onTimeout_eq_ok_iff.1 h
          exact step_of_refund rfl hcommitted hdata hrefund
      | error e t =>
          cases onTimeout_eq_error h
          exact .refused _ e

variable {m}

/-- A step takes the keeper through a turn. -/
theorem turn_of_step {q : Request} {reply : Reply} (hstep : m.Step s q reply t) :
    m.Turn s.keeper q t.keeper := by
  cases hstep with
  | opened channel remote => exact .opened channel remote
  | sent hships hposts hkeeper hevents =>
      rw [hkeeper]
      exact .committed hships
  | credited hcredits hposts hkeeper hevents =>
      rw [hkeeper]
      exact .arrived hcredits.decoded hcredits.denom
  | rejected hledger hkeeper hevents =>
      -- the trace of a packet stays even if the packet is rejected
      rcases hkeeper with hkeeper | ⟨data, denom, hdata, hdenom, hkeeper⟩
      · rw [hkeeper]
        exact .kept _
      · rw [hkeeper]
        exact .arrived hdata hdenom
  | refunded hfails hrefunds hposts hkeeper hevents =>
      rw [hkeeper]
      exact .cleared hrefunds.committed
  | acknowledged hcommitted hdecoded => exact .cleared hcommitted
  | refused _ error => exact .kept _

omit [Ledger β] in
/-- Known traces stay traced. -/
theorem Turn.traced {k l : ChannelKeeper} {q : Request} (h : m.Turn k q l) (hk : k.Traced) :
    l.Traced := by
  cases h with
  | opened channel remote => exact hk.congr rfl
  | committed hships => exact hk.congr rfl
  | arrived hdecoded hdenom => exact ChannelKeeper.traced_afterArrival hk hdenom
  | cleared hcommitted => exact hk.congr rfl
  | kept => exact hk

omit [Ledger β] in
/-- Packets stay committed under their own keys. -/
theorem Turn.filed {k l : ChannelKeeper} {q : Request} (h : m.Turn k q l) (hk : k.Filed) :
    l.Filed := by
  cases h with
  | opened channel remote => exact hk.congr rfl
  | committed hships => exact hk.commit _
  | arrived hdecoded hdenom => exact hk.congr (k.commitments_afterArrival _ _ _)
  | cleared hcommitted => exact hk.deleteCommitment _
  | kept => exact hk

/-- Every step posts a journal. -/
theorem exists_journal_of_step {q : Request} {reply : Reply} (hstep : m.Step s q reply t) :
    ∃ js, Journal.post (view s.ledger) js = .ok (view t.ledger) := by
  cases hstep with
  | opened channel remote => exact ⟨[], rfl⟩
  | sent hships hposts hkeeper hevents => exact ⟨_, hposts⟩
  | credited hcredits hposts hkeeper hevents => exact ⟨_, hposts⟩
  | rejected hledger hkeeper hevents => exact ⟨[], by rw [hledger]; rfl⟩
  | refunded hfails hrefunds hposts hkeeper hevents => exact ⟨_, hposts⟩
  | acknowledged hcommitted hdecoded => exact ⟨[], rfl⟩
  | refused _ error => exact ⟨[], rfl⟩

/-- Permissions stay as they are. -/
theorem permissions_step {q : Request} {reply : Reply} (hstep : m.Step s q reply t) :
    permissions t.ledger = permissions s.ledger := by
  obtain ⟨js, hjs⟩ := exists_journal_of_step hstep
  exact Journal.permissions_of_view hjs

theorem traced_run [LawfulLedger β] (hs : s.keeper.Traced) (qs : List Request) :
    (m.run s qs).keeper.Traced :=
  m.run_induction hs fun t ht q _ => (turn_of_step (m.step_serve t q)).traced ht

theorem filed_run [LawfulLedger β] (hs : s.keeper.Filed) (qs : List Request) :
    (m.run s qs).keeper.Filed :=
  m.run_induction hs fun t ht q _ => (turn_of_step (m.step_serve t q)).filed ht

theorem permissions_run [LawfulLedger β] (s : Stage ChannelKeeper β) (qs : List Request) :
    permissions (m.run s qs).ledger = permissions s.ledger :=
  m.run_induction (P := fun t => permissions t.ledger = permissions s.ledger) rfl
    fun t ht q _ => (permissions_step (m.step_serve t q)).trans ht

variable (m)

/-! ## Histories -/

/-- A request with the reply to it and the stages around it. -/
structure Served (β : Type) where
  before : Stage ChannelKeeper β
  request : Request
  reply : Reply
  after : Stage ChannelKeeper β

namespace Served

omit [Ledger β]

/-- The packet that was committed for a transfer. -/
def shipped (e : Served β) : Option Packet :=
  match e.request, e.reply with
  | .transfer message, .sent response =>
      e.after.keeper.commitments.get? ⟨message.sourceChannel, response.sequence⟩
  | _, _ => none

/-- The packet that was settled by a callback. -/
def settled (e : Served β) : Option Packet :=
  match e.reply with
  | .settled _ => e.request.settling
  | _ => none

/-- Whether a transfer was sent over a channel. -/
def sendsOn (channel : Channel) (e : Served β) : Bool :=
  match e.request, e.reply with
  | .transfer message, .sent _ => message.sourceChannel = channel
  | _, _ => false

end Served

/-- The request as it was served. -/
def record (s : Stage ChannelKeeper β) (q : Request) : Served β :=
  ⟨s, q, (m.serve s q).1, (m.serve s q).2⟩

/-- All requests of a run as they were served. -/
def history (s : Stage ChannelKeeper β) : List Request → List (Served β)
  | [] => []
  | q :: qs => m.record s q :: history (m.serve s q).2 qs

theorem run_append (s : Stage ChannelKeeper β) (qs rs : List Request) :
    m.run s (qs ++ rs) = m.run (m.run s qs) rs :=
  List.foldl_append

theorem history_append (s : Stage ChannelKeeper β) (qs rs : List Request) :
    m.history s (qs ++ rs) = m.history s qs ++ m.history (m.run s qs) rs := by
  induction qs generalizing s with
  | nil => rfl
  | cons q qs ih => exact congrArg (m.record s q :: ·) (ih _)

/-- What is in a history was served after the requests before it. -/
theorem history_eq_append_cons {qs : List Request} {past future : List (Served β)}
    {e : Served β} (h : m.history s qs = past ++ e :: future) :
    ∃ earlier q later, qs = earlier ++ q :: later ∧ past = m.history s earlier ∧
      e = m.record (m.run s earlier) q := by
  induction past generalizing s qs with
  | nil =>
      cases qs with
      | nil => cases h
      | cons q qs =>
          injection h with hhead htail
          exact ⟨[], q, qs, rfl, rfl, hhead.symm⟩
  | cons f past ih =>
      cases qs with
      | nil => cases h
      | cons q qs =>
          injection h with hhead htail
          obtain ⟨earlier, r, later, rfl, rfl, rfl⟩ := ih htail
          exact ⟨q :: earlier, r, later, rfl, by rw [← hhead]; rfl, rfl⟩

variable {m}

/-- What is in a history was served at a stage of the run. -/
theorem exists_eq_record_of_mem_history {qs : List Request} {e : Served β}
    (he : e ∈ m.history s qs) : ∃ earlier q, e = m.record (m.run s earlier) q := by
  obtain ⟨past, future, hsplit⟩ := List.append_of_mem he
  obtain ⟨earlier, q, -, -, -, he⟩ := m.history_eq_append_cons hsplit
  exact ⟨earlier, q, he⟩

theorem map_request_history (s : Stage ChannelKeeper β) (qs : List Request) :
    (m.history s qs).map Served.request = qs := by
  induction qs generalizing s with
  | nil => rfl
  | cons q qs ih => exact congrArg (q :: ·) (ih _)

end TransferModule

/-! ## A desk to try runs at -/

namespace Sample

/-- The unit of the sample registry. -/
def rowan : Denom :=
  ⟨"rowan", by decide⟩

/-- The counterpart of `rowan`. -/
def xrowan : Denom :=
  ⟨"xrowan", by decide⟩

def desk : TransferModule where
  registry := registry

/-- The only counterpart is that of `rowan`. -/
theorem eq_xrowan_of_counterparty {name : String} {d : Denom}
    (h : (desk.registry.entry name).counterparty = d.text) : d = xrowan := by
  have hnamed : d.text ≠ "" := by
    intro hempty
    have hne := Denom.isEmpty_text d
    rw [hempty] at hne
    exact absurd hne (by decide)
  simp only [desk, Registry.entry, Registry.find?, registry, entries, List.foldl_cons,
    List.foldl_nil, FiniteMap.get?_insert] at h
  by_cases hx : name = "xrowan"
  · simp [hx] at h
    exact absurd h hnamed
  · by_cases ho : name = "rowan"
    · simp [ho] at h
      exact Validated.ext h.symm
    · simp [hx, ho] at h
      exact absurd h hnamed

/-- A fresh keeper, and a ledger on which the first user has some `rowan`. -/
def stage : Stage ChannelKeeper MemoryLedger where
  keeper := { port := .transfer }
  ledger := ((∅ : MemoryLedger).registerModule transferModule ⟨true, true⟩).fund (user 1)
    ⟨rowan, 5000000000⟩
  events := []

def opening : Request :=
  .openChannel channel ⟨.transfer, channel⟩

/-- The first user sends `rowan` to the second user of the other chain. -/
def message : TransferMessage where
  sourcePort := .transfer
  sourceChannel := channel
  token := ⟨rowan, 1234567890⟩
  sender := userText 1
  receiver := userText 2
  timeoutHeight := .zero
  timeoutTimestamp := 0

/-- The packet that leaves for the message: of ten digits eight are too small to go. -/
def packet : Packet where
  sequence := 1
  sourcePort := .transfer
  sourceChannel := channel
  destinationPort := .transfer
  destinationChannel := channel
  data := (PacketData.mk "xrowan" 12 (userText 1) (userText 2)).toBytes
  timeoutHeight := .zero
  timeoutTimestamp := 0

/-- What the sample packet says. -/
def data : PacketData :=
  ⟨"xrowan", 12, userText 1, userText 2⟩

theorem decodeData_packet : packet.decodeData = .ok data := by
  have hread : PacketData.ofBytes? packet.data = some data := PacketData.ofBytes?_toBytes _
  rw [Packet.decodeData, hread]

/-- The message is sent, its packet times out, and the timeout is repeated. -/
def requests : List Request :=
  [opening, .transfer message, .timeout packet, .timeout packet]

end Sample

end Interchain
