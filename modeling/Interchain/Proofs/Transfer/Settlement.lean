import Interchain.Proofs.Transfer.Run

/-!
# Every packet is settled at most once

The books of the keeper agree with the history of a run: every step keeps them (`books_step`), so
they hold after every run from a fresh keeper (`books_history`). So a transfer gets the next number
of its channel, and what is committed is what was sent and not settled.
-/

set_option autoImplicit false

namespace Interchain

theorem Request.settling_of_failing {q : Request} {packet : Packet}
    (h : q.failing = some packet) : q.settling = some packet := by
  cases q with
  | openChannel channel remote => cases h
  | transfer message => cases h
  | receive packet => cases h
  | acknowledge packet ack =>
      cases ack with
      | result text => cases h
      | error reason => exact h
  | timeout packet => exact h

namespace TransferModule

variable {β : Type} [Ledger β] {m : TransferModule} {s t : Stage ChannelKeeper β}

/-! ## Histories and books -/

namespace Served

omit [Ledger β]

theorem shipped_eq_none {e : Served β} (h : ∀ response, e.reply ≠ .sent response) :
    e.shipped = none := by
  rw [shipped]
  split
  · rename_i response _ hreply
    exact absurd hreply (h _)
  · rfl

theorem sendsOn_eq_false {e : Served β} (h : ∀ response, e.reply ≠ .sent response)
    (channel : Channel) : e.sendsOn channel = false := by
  rw [sendsOn]
  split
  · rename_i response _ hreply
    exact absurd hreply (h _)
  · rfl

end Served

omit [Ledger β] in
/-- The packet of a shipment is what was shipped. -/
theorem shipped_of_commit {message : TransferMessage} {sh : Shipment}
    (hkeeper : t.keeper = s.keeper.commit (sh.packet s.keeper message)) :
    (⟨s, .transfer message, .sent ⟨s.keeper.sequenceOf message.sourceChannel⟩, t⟩ :
      Served β).shipped = some (sh.packet s.keeper message) := by
  show t.keeper.commitments.get? (sh.packet s.keeper message).key = _
  rw [hkeeper, ChannelKeeper.commit, FiniteMap.get?_insert, if_pos rfl]

omit [Ledger β] in
/-- The books after a step that sends nothing. -/
theorem books_of_unsent {k : ChannelKeeper} {count : Channel → Nat} {sent settled : List Packet}
    {e : Served β} (hunsent : ∀ response, e.reply ≠ .sent response)
    (h : k.Books count sent (settled ++ e.settled.toList)) :
    k.Books (fun channel => count channel + if e.sendsOn channel then 1 else 0)
      (sent ++ e.shipped.toList) (settled ++ e.settled.toList) := by
  simp only [Served.shipped_eq_none hunsent, Served.sendsOn_eq_false hunsent]
  simpa using h

/-- **Every step keeps the books.** -/
theorem books_step {count : Channel → Nat} {sent settled : List Packet} {q : Request}
    {reply : Reply} (hbooks : s.keeper.Books count sent settled) (hstep : m.Step s q reply t)
    (hroom : ∀ channel, count channel +
      (if (⟨s, q, reply, t⟩ : Served β).sendsOn channel then 1 else 0) < UInt64.size - 1) :
    t.keeper.Books
      (fun channel => count channel +
        if (⟨s, q, reply, t⟩ : Served β).sendsOn channel then 1 else 0)
      (sent ++ (⟨s, q, reply, t⟩ : Served β).shipped.toList)
      (settled ++ (⟨s, q, reply, t⟩ : Served β).settled.toList) := by
  cases hstep with
  | opened channel remote =>
      apply books_of_unsent (fun _ => Reply.noConfusion)
      simp only [Served.settled, Option.toList_none, List.append_nil]
      exact hbooks.congr (fun _ => ChannelKeeper.sequenceOf_openChannel) rfl
  | @sent message sh _ hships hposts hkeeper hevents =>
      have hshipped := shipped_of_commit hkeeper
      have hroom := hroom message.sourceChannel
      simp only [Served.sendsOn, decide_true, if_true] at hroom
      rw [hshipped, hkeeper]
      -- the packet has the number that was next
      have hnumber : (sh.packet s.keeper message).sequence =
          s.keeper.sequenceOf (sh.packet s.keeper message).sourceChannel := rfl
      have hcommit := hbooks.commit hnumber hroom
      have hchannel : (sh.packet s.keeper message).sourceChannel = message.sourceChannel := rfl
      simpa [Served.sendsOn, Served.settled, hchannel, eq_comm] using hcommit
  | @credited packet data receiver coin _ hcredits hposts hkeeper hevents =>
      apply books_of_unsent (fun _ => Reply.noConfusion)
      simp only [Served.settled, Option.toList_none, List.append_nil]
      rw [hkeeper]
      exact hbooks.afterArrival packet data.denom coin.denom
  | @rejected packet error _ hledger hkeeper hevents =>
      apply books_of_unsent (fun _ => Reply.noConfusion)
      simp only [Served.settled, Option.toList_none, List.append_nil]
      rcases hkeeper with hkeeper | ⟨data, denom, -, -, hkeeper⟩
      · rw [hkeeper]
        exact hbooks
      · -- the trace of a rejected packet is in no book
        rw [hkeeper]
        exact hbooks.afterArrival packet data.denom denom
  | @refunded _ packet data sender denom _ hfails hrefunds hposts hkeeper hevents =>
      apply books_of_unsent (fun _ => Reply.noConfusion)
      simp only [Served.settled, Request.settling_of_failing hfails, Option.toList_some]
      rw [hkeeper]
      exact hbooks.settle hrefunds.committed
  | @acknowledged packet text data hcommitted hdecoded =>
      apply books_of_unsent (fun _ => Reply.noConfusion)
      exact hbooks.settle hcommitted
  | refused _ error =>
      apply books_of_unsent (fun _ => Reply.noConfusion)
      simpa only [Served.settled, Option.toList_none, List.append_nil] using hbooks

/-- The number of transfers that were sent over a channel. -/
def sends (h : List (Served β)) (channel : Channel) : Nat :=
  h.countP (·.sendsOn channel)

/-- The packets that were committed, in the order of the transfers. -/
def sentPackets (h : List (Served β)) : List Packet :=
  h.filterMap Served.shipped

/-- The packets that were settled, in the order of the callbacks. -/
def settledPackets (h : List (Served β)) : List Packet :=
  h.filterMap Served.settled

/-- A run keeps the books. -/
theorem books_run [LawfulLedger β] {count : Channel → Nat} {sent settled : List Packet}
    (hbooks : s.keeper.Books count sent settled) (qs : List Request)
    (hroom : ∀ channel, count channel + sends (m.history s qs) channel < UInt64.size - 1) :
    (m.run s qs).keeper.Books (fun channel => count channel + sends (m.history s qs) channel)
      (sent ++ sentPackets (m.history s qs)) (settled ++ settledPackets (m.history s qs)) := by
  induction qs generalizing s count sent settled with
  | nil => simpa [history, sends, sentPackets, settledPackets] using hbooks
  | cons q qs ih =>
      -- what the first request adds to the books comes before what the others add
      have hcount : ∀ channel, sends (m.history s (q :: qs)) channel =
          (if (m.record s q).sendsOn channel then 1 else 0) +
            sends (m.history (m.serve s q).2 qs) channel := by
        intro channel
        simp only [sends, history, List.countP_cons]
        omega
      have hstep := books_step hbooks (m.step_serve s q) fun channel => by
        have hall := hroom channel
        rw [hcount] at hall
        exact Nat.lt_of_le_of_lt (by unfold record at *; omega) hall
      have hrest := ih hstep fun channel => by
        have hall := hroom channel
        rw [hcount, ← Nat.add_assoc] at hall
        exact hall
      have hsent : sentPackets (m.history s (q :: qs)) =
          (m.record s q).shipped.toList ++ sentPackets (m.history (m.serve s q).2 qs) := by
        simp only [sentPackets, history, List.filterMap_cons]
        cases (m.record s q).shipped <;> rfl
      have hsettled : settledPackets (m.history s (q :: qs)) =
          (m.record s q).settled.toList ++ settledPackets (m.history (m.serve s q).2 qs) := by
        simp only [settledPackets, history, List.filterMap_cons]
        cases (m.record s q).settled <;> rfl
      rw [hsent, hsettled, ← List.append_assoc, ← List.append_assoc]
      simp only [hcount, ← Nat.add_assoc]
      exact hrest

/-- **The books hold after every run from a fresh keeper.** -/
theorem books_history [LawfulLedger β] (hfresh : s.keeper.Fresh) (qs : List Request)
    (hroom : ∀ channel, sends (m.history s qs) channel < UInt64.size - 1) :
    (m.run s qs).keeper.Books (sends (m.history s qs)) (sentPackets (m.history s qs))
      (settledPackets (m.history s qs)) := by
  have h := books_run (m := m) (ChannelKeeper.books_of_fresh hfresh) qs (by simpa using hroom)
  simpa using h

/-! ## Callbacks -/

/-- A callback on a packet that is not committed is refused and changes nothing. -/
theorem serve_of_uncommitted {q : Request} {packet : Packet} (hq : q.settling = some packet)
    (h : s.keeper.hasCommitment packet = false) :
    m.serve s q = (.refused (.commitmentNotFound packet.sourceChannel packet.sequence), s) := by
  have hrequire : requireCommitment packet s =
      .error (.commitmentNotFound packet.sourceChannel packet.sequence) s :=
    requireCommitment_eq_error_iff.2 ⟨h, rfl, rfl⟩
  cases q with
  | openChannel channel remote => cases hq
  | transfer message => cases hq
  | receive packet => cases hq
  | acknowledge packet ack =>
      cases hq
      have hack : m.onAcknowledgement packet ack s =
          .error (.commitmentNotFound packet.sourceChannel packet.sequence) s :=
        Action.bind_eq_error_iff.2 (.inl hrequire)
      rw [serve, hack]
      rfl
  | timeout packet =>
      cases hq
      have htimeout : m.onTimeout packet s =
          .error (.commitmentNotFound packet.sourceChannel packet.sequence) s :=
        Action.bind_eq_error_iff.2 (.inl hrequire)
      rw [serve, htimeout]
      rfl

/-- Only a committed packet is settled. -/
theorem hasCommitment_of_settled {q : Request} {reply : Reply} {packet : Packet}
    (hstep : m.Step s q reply t) (h : (⟨s, q, reply, t⟩ : Served β).settled = some packet) :
    s.keeper.hasCommitment packet = true := by
  cases hstep with
  | opened channel remote => cases h
  | sent hships hposts hkeeper hevents => cases h
  | credited hcredits hposts hkeeper hevents => cases h
  | rejected hledger hkeeper hevents => cases h
  | refunded hfails hrefunds hposts hkeeper hevents =>
      have hsettling := Request.settling_of_failing hfails
      cases hsettling.symm.trans h
      exact hrefunds.committed
  | acknowledged hcommitted hdecoded =>
      cases h
      exact hcommitted
  | refused _ error => cases h

/-- A transfer gets the number that is next, and a packet is committed under it. -/
theorem shipped_of_sent {q : Request} {reply : Reply} (hstep : m.Step s q reply t)
    {message : TransferMessage} {response : TransferResponse} (hq : q = .transfer message)
    (hreply : reply = .sent response) :
    response.sequence = s.keeper.sequenceOf message.sourceChannel ∧
      ∃ p, (⟨s, q, reply, t⟩ : Served β).shipped = some p ∧
        p.key = ⟨message.sourceChannel, response.sequence⟩ := by
  subst hq hreply
  cases hstep with
  | @sent _ sh _ hships hposts hkeeper hevents =>
      exact ⟨rfl, _, shipped_of_commit hkeeper, rfl⟩

/-- What is sent over a channel is a packet. -/
theorem exists_shipped_of_sendsOn {q : Request} {reply : Reply} (hstep : m.Step s q reply t)
    {channel : Channel} (h : (⟨s, q, reply, t⟩ : Served β).sendsOn channel = true) :
    ∃ p, (⟨s, q, reply, t⟩ : Served β).shipped = some p := by
  rw [Served.sendsOn] at h
  split at h
  · rename_i message response hrequest hreply
    obtain ⟨-, p, hp, -⟩ := shipped_of_sent hstep hrequest hreply
    exact ⟨p, hp⟩
  · cases h

/-- The acknowledgement of a success moves no coins. -/
theorem ledger_of_acknowledge_result {packet : Packet} {text : String} {reply : Reply}
    (hstep : m.Step s (.acknowledge packet (.result text)) reply t) : t.ledger = s.ledger := by
  cases hstep with
  | refunded hfails hrefunds hposts hkeeper hevents => cases hfails
  | acknowledged hcommitted hdecoded => rfl
  | refused _ error => rfl

/-- The packet was sent as it is, and no packet under its key was settled. -/
def Outstanding (h : List (Served β)) (p : Packet) : Prop :=
  p ∈ sentPackets h ∧ p.key ∉ (settledPackets h).map Packet.key

/-- What holds of a served request, given what was served before it. -/
structure Orderly (past : List (Served β)) (e : Served β) : Prop where
  /-- A transfer gets the next number of its channel, and its packet is committed under it. -/
  numbered : ∀ message response, e.request = .transfer message → e.reply = .sent response →
    response.sequence.toNat = sends past message.sourceChannel + 1 ∧
      ∃ p, e.shipped = some p ∧ p.key = ⟨message.sourceChannel, response.sequence⟩
  /-- What is committed is what is outstanding. -/
  committed : ∀ p, e.before.keeper.hasCommitment p = true ↔ Outstanding past p
  /-- A callback succeeds only on an outstanding packet. -/
  settles : ∀ p, e.settled = some p → Outstanding past p
  /-- A callback on any other packet is refused and changes nothing. -/
  refuses : ∀ p, e.request.settling = some p → ¬ Outstanding past p →
    e.reply = .refused (.commitmentNotFound p.sourceChannel p.sequence) ∧ e.after = e.before
  /-- The acknowledgement of a success moves no coins. -/
  inert : ∀ p text, e.request = .acknowledge p (.result text) →
    e.after.ledger = e.before.ledger

/-- **Every packet is settled at most once.** In a run from a fresh keeper that does not run out
of numbers, no two callbacks settle packets under one key, and each request is served in
accordance with those before it. -/
theorem packets_settled_once [LawfulLedger β] (m : TransferModule) (s : Stage ChannelKeeper β)
    (hfresh : s.keeper.Fresh) (qs : List Request)
    (hroom : ∀ channel, sends (m.history s qs) channel < UInt64.size - 1) :
    ((settledPackets (m.history s qs)).map Packet.key).Nodup ∧
      ∀ past e future, m.history s qs = past ++ e :: future → Orderly past e := by
  refine ⟨(books_history hfresh qs hroom).once, ?_⟩
  intro past e future hsplit
  obtain ⟨earlier, q, later, rfl, rfl, rfl⟩ := m.history_eq_append_cons hsplit
  have hroomPast : ∀ channel, sends (m.history s earlier) channel < UInt64.size - 1 := by
    intro channel
    have hall := hroom channel
    rw [hsplit, sends, List.countP_append] at hall
    exact Nat.lt_of_le_of_lt (Nat.le_add_right _ _) hall
  -- what was served before the request is a run of its own
  have hbooks := books_history hfresh earlier hroomPast
  have hstep := m.step_serve (m.run s earlier) q
  refine ⟨?_, hbooks.committed, ?_, ?_, ?_⟩
  · -- the next number is one more than the number of packets sent
    intro message response hrequest hreply
    obtain ⟨hsequence, hshipped⟩ := shipped_of_sent hstep hrequest hreply
    refine ⟨?_, hshipped⟩
    rw [hsequence, hbooks.next]
  · intro p hp
    exact (hbooks.committed p).1 (hasCommitment_of_settled hstep hp)
  · intro p hp hout
    -- what is not outstanding is not committed
    have huncommitted : (m.run s earlier).keeper.hasCommitment p = false := by
      rw [← Bool.not_eq_true, hbooks.committed]
      exact hout
    have hserve := serve_of_uncommitted (m := m) hp huncommitted
    exact ⟨congrArg Prod.fst hserve, congrArg Prod.snd hserve⟩
  · intro p text hrequest
    have hrequest : q = .acknowledge p (.result text) := hrequest
    subst hrequest
    exact ledger_of_acknowledge_result hstep

/-- The sample packet is settled by the first of its timeouts only. -/
theorem packets_settled_once_sample :
    settledPackets (Sample.desk.history Sample.stage Sample.requests) = [Sample.packet] ∧
      ((settledPackets (Sample.desk.history Sample.stage Sample.requests)).map
        Packet.key).Nodup := by
  have hfresh : Sample.stage.keeper.Fresh := ⟨rfl, rfl, rfl, rfl⟩
  refine ⟨by decide +kernel, (packets_settled_once Sample.desk Sample.stage hfresh _ ?_).1⟩
  intro channel
  apply Nat.lt_of_le_of_lt List.countP_le_length
  decide

end TransferModule

end Interchain
