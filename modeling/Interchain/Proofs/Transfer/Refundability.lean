import Interchain.Proofs.Transfer.Escrow

/-!
# Committed packets can be refunded

A refund can fail in many ways: the packet may not be committed or not say anything, its sender may
be no account, its path may lead to no denomination, and the ledger may refuse. If a packet is to be
refunded at all (`Refunds`), only the last of these is left (`settledOrRefused_serve`). Every packet
that is committed after a run from a fresh keeper was sent by a transfer of the run
(`exists_sends_of_committed`), and the sender and the path of a shipment can be read, so nothing but
the ledger stands between a committed packet and its refund (`committed_packets_refundable`).
-/

set_option autoImplicit false

namespace Interchain

open Interchain.Action Ledger

/-! ## Failures of refunds -/

/-- Whether the ledger refused. -/
def TransferError.OfLedger (e : TransferError) : Prop :=
  ∃ error, e = .ledger error

theorem ChannelKeeper.ofLedger_of_refund_error {β : Type} [Ledger β] {s t : Stage ChannelKeeper β}
    {packet : Packet} {data : PacketData} {sender : Address} {denom : Denom} {e : TransferError}
    (hsender : Address.parse data.sender = .ok sender)
    (hdenom : (Trace.parse data.denom).localDenom = .ok denom)
    (h : refund packet data s = .error e t) : e.OfLedger := by
  unfold refund mintTo at h
  simp only [hsender, hdenom, bind_eq_error_iff, parsed_eq_error_iff, parsed_eq_ok_iff,
    pure_eq_error_iff, ite_eq_error_iff, onLedger_eq_error_iff, reduceCtorEq, false_and,
    and_false, exists_false, false_or, or_false] at h
  obtain ⟨_, _, -, _, _, -, h⟩ := h
  -- what is left is paid out of escrow, or minted and paid
  rcases h with ⟨-, error, -, he, -⟩ | ⟨-, ⟨error, -, he, -⟩ | ⟨-, _, -, error, -, he, -⟩⟩
  · exact ⟨error, he⟩
  · exact ⟨error, he⟩
  · exact ⟨error, he⟩

theorem Plan.ofLedger_of_execute_error {κ β : Type} [Ledger β] {s t : Stage κ β} {p : Plan}
    {account : Address} {a : Amount} {e : TransferError}
    (h : p.execute account a s = .error e t) : e.OfLedger := by
  rw [execute] at h
  simp only [bind_eq_error_iff, onLedger_eq_error_iff, pure_eq_error_iff, and_false,
    exists_false, or_false] at h
  rcases h with ⟨error, -, he, -⟩ | ⟨-, _, -, ⟨error, -, he, -⟩ | ⟨-, _, -, error, -, he, -⟩⟩
  · exact ⟨error, he⟩
  · exact ⟨error, he⟩
  · exact ⟨error, he⟩

theorem Reversal.ofLedger_of_reverse_error {κ β : Type} [Ledger β] {s t : Stage κ β}
    {r : Registry} {packet : Packet} {data : PacketData} {sender : Address} {e : TransferError}
    (hsender : Address.parse data.sender = .ok sender)
    (h : reverse r packet data s = .error e t) : e.OfLedger := by
  rw [reverse] at h
  cases hrecognize : recognize r packet data with
  | none =>
      rw [hrecognize] at h
      exact (pure_eq_error_iff.1 h).elim
  | some shaped =>
      obtain ⟨shape, p⟩ := shaped
      simp only [hrecognize, hsender, bind_eq_error_iff, parsed_eq_error_iff,
        atomically_eq_error_iff, emit_eq_error_iff, pure_eq_error_iff, reduceCtorEq, false_and,
        and_false, exists_false, false_or, or_false] at h
      obtain ⟨_, _, -, _, hexecute, -⟩ := h
      exact Plan.ofLedger_of_execute_error hexecute

namespace TransferModule

variable {β : Type} [Ledger β] {m : TransferModule} {s t : Stage ChannelKeeper β}
  {packet p : Packet} {data : PacketData} {sender : Address} {denom : Denom}

/-- **A refund whose sender and denomination can be read fails for the ledger only.** -/
theorem ofLedger_of_refund_error {e : TransferError}
    (hsender : Address.parse data.sender = .ok sender)
    (hdenom : (Trace.parse data.denom).localDenom = .ok denom)
    (h : m.refund packet data s = .error e t) : e.OfLedger := by
  rw [refund, clearCommitment] at h
  simp only [bind_eq_error_iff, atomically_eq_error_iff, modify_eq_error_iff, pure_eq_error_iff,
    and_false, exists_false, or_false] at h
  obtain ⟨_, hwork, -⟩ := h
  rcases hwork with hrefund | ⟨_, _, -, hreverse⟩
  · exact ChannelKeeper.ofLedger_of_refund_error hsender hdenom hrefund
  · exact Reversal.ofLedger_of_reverse_error hsender hreverse

/-- Whether a request was settled, or refused by the ledger. -/
inductive SettledOrRefused : Reply → Prop where
  | settled (outcome : Option ReversalOutcome) : SettledOrRefused (.settled outcome)
  | refused (error : LedgerError) : SettledOrRefused (.refused (.ledger error))

omit [Ledger β] in
theorem settledOrRefused_answer {α : Type} {x : Action ChannelKeeper β α} {reply : α → Reply}
    (hreply : ∀ a, SettledOrRefused (reply a))
    (herror : ∀ e t, x s = .error e t → e.OfLedger) :
    SettledOrRefused (answer reply (x s)).1 := by
  cases h : x s with
  | ok a t => exact hreply a
  | error e t =>
      obtain ⟨error, rfl⟩ := herror e t h
      exact .refused error

omit [Ledger β] in
/-- Past its two checks a callback fails with what comes after them. -/
theorem error_of_checked {α : Type} {f : PacketData → Action ChannelKeeper β α} {e : TransferError}
    (hcommitted : s.keeper.hasCommitment packet = true) (hdecoded : packet.decodeData = .ok data)
    (h : (do requireCommitment packet; f (← MonadExcept.ofExcept packet.decodeData)) s =
      .error e t) : f data s = .error e t := by
  simp only [bind_eq_error_iff, requireCommitment_eq_error_iff, requireCommitment_eq_ok_iff,
    hcommitted, hdecoded, ofExcept_eq_error_iff, ofExcept_eq_ok_iff] at h
  rcases h with ⟨hmissing, -⟩ | ⟨-, _, ⟨-, rfl⟩, ⟨hunread, -⟩ | ⟨_, _, ⟨hdata, rfl⟩, h⟩⟩
  · cases hmissing
  · cases hunread
  · cases hdata
    exact h

/-- A timeout of a committed packet fails only if the refund does. -/
theorem refund_of_onTimeout_error {e : TransferError}
    (hcommitted : s.keeper.hasCommitment packet = true) (hdecoded : packet.decodeData = .ok data)
    (h : m.onTimeout packet s = .error e t) : m.refund packet data s = .error e t := by
  have hrest := error_of_checked hcommitted hdecoded h
  simpa only [bind_eq_error_iff, emit_eq_error_iff, pure_eq_error_iff, and_false, exists_false,
    or_false] using hrest

/-- The acknowledgement of the failure of a committed packet fails only if the refund does. -/
theorem refund_of_onAcknowledgement_error {reason : String} {e : TransferError}
    (hcommitted : s.keeper.hasCommitment packet = true) (hdecoded : packet.decodeData = .ok data)
    (h : m.onAcknowledgement packet (.error reason) s = .error e t) :
    m.refund packet data s = .error e t := by
  have hrest := error_of_checked hcommitted hdecoded h
  simpa only [bind_eq_error_iff, emit_eq_error_iff, pure_eq_error_iff, and_false, exists_false,
    or_false] using hrest

/-- **A callback on a packet that is to be refunded is settled or refused by the ledger.** -/
theorem settledOrRefused_serve (hrefunds : Refunds s.keeper packet data sender denom) {q : Request}
    (hq : q.settling = some packet) : SettledOrRefused (m.serve s q).1 := by
  have hrefund : ∀ e t, m.refund packet data s = .error e t → e.OfLedger :=
    fun e t h => ofLedger_of_refund_error hrefunds.sender hrefunds.denom h
  cases q with
  | openChannel channel remote => cases hq
  | transfer message => cases hq
  | receive packet => cases hq
  | acknowledge packet ack =>
      cases hq
      refine settledOrRefused_answer .settled fun e t h => ?_
      cases ack with
      | result text =>
          -- a success only clears the commitment
          cases h.symm.trans (onAcknowledgement_result_eq_ok_iff.2
            ⟨hrefunds.committed, data, hrefunds.decoded, rfl, rfl⟩)
      | error reason =>
          exact hrefund e t
            (refund_of_onAcknowledgement_error hrefunds.committed hrefunds.decoded h)
  | timeout packet =>
      cases hq
      refine settledOrRefused_answer (fun _ => .settled _) fun e t h => ?_
      exact hrefund e t (refund_of_onTimeout_error hrefunds.committed hrefunds.decoded h)

/-! ## Packets that were sent -/

/-- Whether a request was a transfer that left as `packet`. -/
structure Served.Sends (m : TransferModule) (e : Served β) (packet : Packet)
    (message : TransferMessage) (sh : Shipment) : Prop where
  request : e.request = .transfer message
  reply : e.reply = .sent ⟨packet.sequence⟩
  ships : m.Ships e.before.keeper message sh
  packet : packet = sh.packet e.before.keeper message

/-- What was shipped is the packet of a transfer. -/
theorem exists_sends_of_shipped {q : Request} {reply : Reply} (hstep : m.Step s q reply t)
    (h : (⟨s, q, reply, t⟩ : Served β).shipped = some p) :
    ∃ message sh, (⟨s, q, reply, t⟩ : Served β).Sends m p message sh := by
  cases hstep with
  | @sent message sh _ hships hposts hkeeper hevents =>
      cases (shipped_of_commit hkeeper).symm.trans h
      exact ⟨message, sh, rfl, rfl, hships, rfl⟩
  | opened channel remote => cases h
  | credited hcredits hposts hkeeper hevents => cases h
  | rejected hledger hkeeper hevents => cases h
  | refunded hfails hrefunds hposts hkeeper hevents =>
      cases (Served.shipped_eq_none fun _ => Reply.noConfusion).symm.trans h
  | acknowledged hcommitted hdecoded => cases h
  | refused _ e =>
      cases (Served.shipped_eq_none fun _ => Reply.noConfusion).symm.trans h

variable [LawfulLedger β]

/-- **What is committed after a run was sent by a transfer of the run.** -/
theorem exists_sends_of_committed (hfresh : s.keeper.Fresh) (qs : List Request)
    (hroom : ∀ channel, sends (m.history s qs) channel < UInt64.size - 1)
    (hcommitted : (m.run s qs).keeper.hasCommitment p = true) :
    ∃ e ∈ m.history s qs, e.before.keeper.Traced ∧ ∃ message sh, e.Sends m p message sh := by
  obtain ⟨hsent, -⟩ := ((books_history hfresh qs hroom).committed p).1 hcommitted
  obtain ⟨e, he, hshipped⟩ := List.mem_filterMap.1 hsent
  refine ⟨e, he, ?_⟩
  obtain ⟨earlier, q, rfl⟩ := exists_eq_record_of_mem_history he
  have htraced : (m.run s earlier).keeper.Traced :=
    traced_run (ChannelKeeper.traced_of_empty hfresh.traces) earlier
  exact ⟨htraced, exists_sends_of_shipped (m.step_serve (m.run s earlier) q) hshipped⟩

omit [Ledger β] [LawfulLedger β] in
/-- The packet of a shipment says what the shipment is, and its sender and path can be read. -/
theorem Served.Sends.refunds {e : Served β} {message : TransferMessage} {sh : Shipment}
    {k : ChannelKeeper} (h : e.Sends m p message sh) (htraced : e.before.keeper.Traced)
    (hcommitted : k.hasCommitment p = true) :
    ∃ denom, Refunds k p (sh.data message) sh.sender denom := by
  have hpath : e.before.keeper.fullPath sh.token.denom = .ok sh.path := h.ships.admits.path
  obtain ⟨denom, hdenom⟩ := ChannelKeeper.exists_localDenom_of_fullPath htraced.held hpath
  refine ⟨denom, hcommitted, ?_, h.ships.admits.sender, hdenom⟩
  rw [h.packet, Shipment.decodeData_packet]

/-- What holds of a packet that is stored under a key after a history: the key is its own, its
number was given out, and it says what a transfer of the history sent, so that all that a refund
reads can be read. -/
structure Accounted (m : TransferModule) (es : List (Served β)) (k : ChannelKeeper)
    (key : PacketKey) (p : Packet) (data : PacketData) : Prop where
  filed : key = p.key
  numbered : p.sequence < k.sequenceOf p.sourceChannel
  sent : ∃ e ∈ es, ∃ message sh, e.Sends m p message sh ∧
    data = ⟨sh.path, sh.token.amount, message.sender, message.receiver⟩
  positive : data.amount ≠ 0
  refunds : ∃ sender denom, Refunds k p data sender denom

/-- **A committed packet fails to refund for the ledger only.** After a run from a fresh keeper
that does not run out of numbers, every stored packet is accounted for, and so a callback on a
committed packet is settled or refused by the ledger. -/
theorem committed_packets_refundable (m : TransferModule) (s : Stage ChannelKeeper β)
    (hfresh : s.keeper.Fresh) (qs : List Request)
    (hroom : ∀ channel, sends (m.history s qs) channel < UInt64.size - 1) :
    (∀ key p, (m.run s qs).keeper.commitments.get? key = some p →
      ∃ data, Accounted m (m.history s qs) (m.run s qs).keeper key p data) ∧
    ∀ q p, q.settling = some p → (m.run s qs).keeper.hasCommitment p = true →
      SettledOrRefused (m.serve (m.run s qs) q).1 := by
  have hbooks := books_history hfresh qs hroom
  refine ⟨fun key p hstored => ?_, fun q p hq hcommitted => ?_⟩
  · have hkey := filed_run (m := m) (ChannelKeeper.filed_of_fresh hfresh) qs key p hstored
    have hcommitted : (m.run s qs).keeper.hasCommitment p = true := by
      rw [ChannelKeeper.hasCommitment_iff, ← hkey]
      exact hstored
    obtain ⟨e, he, htraced, message, sh, hsends⟩ :=
      exists_sends_of_committed hfresh qs hroom hcommitted
    obtain ⟨denom, hrefunds⟩ := hsends.refunds htraced hcommitted
    refine ⟨sh.data message, hkey, ?_, ⟨e, he, message, sh, hsends, rfl⟩,
      hsends.ships.admits.amount, sh.sender, denom, hrefunds⟩
    -- the next number of a channel is above all that were given out
    have hle := hbooks.numbered p ((hbooks.committed p).1 hcommitted).1
    rw [UInt64.lt_iff_toNat_lt, hbooks.next]
    omega
  · obtain ⟨e, -, htraced, message, sh, hsends⟩ :=
      exists_sends_of_committed hfresh qs hroom hcommitted
    obtain ⟨denom, hrefunds⟩ := hsends.refunds htraced hcommitted
    exact settledOrRefused_serve hrefunds hq

end TransferModule

namespace Sample

/-- The message is sent, and some of the counterpart comes home. -/
def shortfall : List Request :=
  [opening, .transfer message, .receive homecoming]

theorem serve_shortfall :
    (desk.run stage shortfall).keeper.hasCommitment packet = true ∧
      (desk.serve (desk.run stage shortfall) (.timeout packet)).1 =
        .refused (.ledger (.insufficientFunds hop.escrow ⟨xrowan, 12⟩ 7)) := by
  decide +kernel

end Sample

namespace TransferModule

/-- Of twelve that left five came home, so seven are left. All that a refund of the twelve reads can
be read, and still the timeout is refused: by the ledger. -/
theorem committed_packets_refundable_sample :
    (∀ channel, sends (Sample.desk.history Sample.stage Sample.shortfall) channel <
        UInt64.size - 1) ∧
      (∃ data, Accounted Sample.desk (Sample.desk.history Sample.stage Sample.shortfall)
        (Sample.desk.run Sample.stage Sample.shortfall).keeper Sample.packet.key Sample.packet
        data) ∧
      SettledOrRefused (Sample.desk.serve (Sample.desk.run Sample.stage Sample.shortfall)
        (.timeout Sample.packet)).1 ∧
      (Sample.desk.serve (Sample.desk.run Sample.stage Sample.shortfall)
        (.timeout Sample.packet)).1 =
          .refused (.ledger (.insufficientFunds Sample.hop.escrow ⟨Sample.xrowan, 12⟩ 7)) := by
  have hfresh : Sample.stage.keeper.Fresh := ⟨rfl, rfl, rfl, rfl⟩
  have hroom : ∀ channel, sends (Sample.desk.history Sample.stage Sample.shortfall) channel <
      UInt64.size - 1 := by
    intro channel
    apply Nat.lt_of_le_of_lt List.countP_le_length
    decide
  obtain ⟨hstored, hserved⟩ :=
    committed_packets_refundable Sample.desk Sample.stage hfresh Sample.shortfall hroom
  obtain ⟨hcommitted, hrefused⟩ := Sample.serve_shortfall
  refine ⟨hroom, ?_, ?_, hrefused⟩
  · exact hstored Sample.packet.key Sample.packet (ChannelKeeper.hasCommitment_iff.1 hcommitted)
  · exact hserved (.timeout Sample.packet) Sample.packet rfl hcommitted

end TransferModule

end Interchain
