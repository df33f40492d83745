import Interchain.Proofs.Transfer.Issuance
import Interchain.Proofs.Transfer.Refundability
import Interchain.Proofs.Transfer.Rejection

/-!
# Vouchers stay traceable

A voucher can be sent on only if its trace is known. A stage is traceable if the keeper knows the
trace of every voucher that there is, and of every voucher that a refund would create
(`Stage.Traceable`). Vouchers are created only where their traces are known, or when their traces
are learned (`not_issuable_of_untraced`), so every step that sends legible tokens keeps a stage
traceable (`traceable_step`), provided that counterparts are denominations of this chain. Then what
is held of a voucher can be sent, and the path in its packet hashes back to the voucher
(`vouchers_traceable`).
-/

set_option autoImplicit false

namespace Interchain

open Interchain.Action Ledger

/-! ## Denominations that do not exist -/

/-- Whether nothing of a denomination is there. -/
structure Ledger.Absent {β : Type} [Ledger β] (b : β) (d : Denom) : Prop where
  supply : Ledger.supply b d = 0
  balance : ∀ account, Ledger.balance b account d = 0

section Absent

variable {β : Type} [Ledger β] [LawfulLedger β] {b c : β} {d : Denom}

/-- What is not there and not issued is in nobody's hands after a posting. -/
theorem Posting.absent_post {j : Posting} (h : j.post b = .ok c) (hissues : ¬ j.Issues d)
    (hd : Absent b d) : Absent c d := by
  have hchange : ∀ account, j.change account d = 0 := by
    intro account
    cases j with
    | pay source target coin =>
        by_cases hcoin : d = coin.denom
        · -- nothing can be paid of what the payer does not have
          subst hcoin
          have hheld : coin.amount ≤ balance b source coin.denom := (exists_post_iff _).1 ⟨c, h⟩
          rw [hd.balance, Nat.le_zero] at hheld
          simp [change, Coin.share, hheld]
        · simp [change, Coin.share_of_denom_ne hcoin]
    | mint name coin => exact Coin.share_of_denom_ne (fun hcoin => hissues hcoin.symm) _ _
    | burn name coin =>
        simp [change, Coin.share_of_denom_ne fun hcoin => hissues hcoin.symm]
  refine ⟨?_, fun account => ?_⟩
  · have hsupply := supply_post h d
    rw [issue_of_not_issues hissues, hd.supply] at hsupply
    exact Int.ofNat.inj hsupply
  · have hbalance := balance_post h account d
    rw [hchange, hd.balance] at hbalance
    exact Int.ofNat.inj hbalance

theorem Journal.absent_post {js : Journal} (h : post b js = .ok c) (hissues : ¬ Issues d js)
    (hd : Absent b d) : Absent c d := by
  induction js generalizing b with
  | nil =>
      cases h
      exact hd
  | cons j js ih =>
      rw [issues_cons, not_or] at hissues
      obtain ⟨e, he, hrest⟩ := post_cons_eq_ok_iff.1 h
      exact ih hrest hissues.2 (Posting.absent_post he hissues.1 hd)

end Absent

/-! ## Traces that are known -/

namespace ChannelKeeper

variable {k : ChannelKeeper} {d : Denom} {path : String}

/-- Only a voucher without a trace has no full path. -/
theorem fullPath_eq_error_iff {e : TransferError} :
    k.fullPath d = .error e ↔
      d.isVoucher = true ∧ k.traces.contains d = false ∧ e = .traceNotFound d := by
  rw [fullPath, FiniteMap.contains]
  cases d.isVoucher with
  | false => simp
  | true => cases k.traces.get? d with
    | none => simp [eq_comm]
    | some trace => simp

/-- The trace of a voucher whose full path is known. -/
theorem contains_of_fullPath (hvoucher : d.isVoucher = true) (hpath : k.fullPath d = .ok path) :
    k.traces.contains d = true := by
  obtain ⟨trace, hstored, -⟩ := exists_trace_of_fullPath hvoucher hpath
  rw [FiniteMap.contains, hstored]
  rfl

/-- The full path of a voucher hashes to the voucher. -/
theorem Traced.eq_voucher (hk : k.Traced) (hvoucher : d.isVoucher = true)
    (hpath : k.fullPath d = .ok path) : d = Trace.voucher path := by
  obtain ⟨trace, hstored, rfl⟩ := exists_trace_of_fullPath hvoucher hpath
  obtain ⟨-, hforeign, hlocal⟩ := hk d trace hstored
  rw [Trace.localDenom_of_foreign hforeign] at hlocal
  exact (Except.ok.inj hlocal).symm

/-- Whether the trace of every voucher is known that the refund of a committed packet creates. -/
def Mindful (k : ChannelKeeper) : Prop :=
  ∀ packet data denom, k.hasCommitment packet = true → packet.decodeData = .ok data →
    senderIsSource packet.source data.denom = false →
      (Trace.parse data.denom).localDenom = .ok denom → k.traces.contains denom = true

end ChannelKeeper

namespace TransferModule

/-- Whether what is registered as a counterpart is a denomination of this chain. -/
def Grounded (m : TransferModule) : Prop :=
  ∀ name d, m.Names name d → d.isVoucher = false ∧ d.isPlain = true

end TransferModule

/-- Whether a token that is sent is legible. -/
def Request.Legible : Request → Prop
  | .transfer message => message.token.denom.Legible
  | _ => True

/-- Whether the keeper of a stage knows the trace of every voucher that there is or that a refund
creates. -/
structure Stage.Traceable {β : Type} [Ledger β] (s : Stage ChannelKeeper β) : Prop where
  traced : s.keeper.Traced
  mindful : s.keeper.Mindful
  absent : ∀ d, d.isVoucher = true → s.keeper.traces.contains d = false → Absent s.ledger d

namespace TransferModule

variable {m : TransferModule} {k l : ChannelKeeper} {d : Denom} {q : Request}

/-- What leaves for a legible token is legible. -/
theorem Ships.legible_of_grounded (hr : m.registry.Valid) (hm : m.Grounded)
    {message : TransferMessage} {sh : Shipment} (h : m.Ships k message sh)
    (htoken : message.token.denom.Legible) : sh.token.denom.Legible := by
  rcases h.names hr with ⟨hliteral, -⟩ | hnames
  · rw [hliteral]
    exact htoken
  · exact .inr (hm _ _ hnames).2

/-- Known traces stay known. -/
theorem Turn.contains_traces (h : m.Turn k q l) (hd : k.traces.contains d = true) :
    l.traces.contains d = true := by
  cases h with
  | opened channel remote => exact hd
  | committed hships => exact hd
  | arrived hdecoded hdenom =>
      rw [ChannelKeeper.afterArrival]
      split
      · exact hd
      · exact ChannelKeeper.contains_learn.2 (.inl hd)
  | cleared hcommitted => exact hd
  | kept => exact hd

/-- A request that sends a legible token leaves the keeper mindful. -/
theorem Turn.mindful (hr : m.registry.Valid) (hm : m.Grounded) (h : m.Turn k q l)
    (hk : k.Traced) (hq : q.Legible) (hmindful : k.Mindful) : l.Mindful := by
  have hgrows : ∀ d, k.traces.contains d = true → l.traces.contains d = true :=
    fun d hd => h.contains_traces hd
  intro packet data denom hcommitted hdecoded haway hdenom
  cases h with
  | opened channel remote => exact hgrows _ (hmindful _ _ _ hcommitted hdecoded haway hdenom)
  | @committed message sh hships =>
      rw [ChannelKeeper.hasCommitment_commit] at hcommitted
      by_cases hkey : packet.key = (sh.packet k message).key
      · rw [if_pos hkey] at hcommitted
        subst hcommitted
        cases (sh.decodeData_packet k message).symm.trans hdecoded
        -- the path leads back to the token, which is a voucher, and its trace gave the path
        have hback := ChannelKeeper.localDenom_of_fullPath hk hships.admits.path
          (hships.legible_of_grounded hr hm hq)
        cases Except.ok.inj (hback.symm.trans hdenom)
        exact ChannelKeeper.contains_of_fullPath (isVoucher_of_away haway hdenom)
          hships.admits.path
      · rw [if_neg hkey] at hcommitted
        exact hmindful _ _ _ hcommitted hdecoded haway hdenom
  | arrived hread hheld =>
      rw [ChannelKeeper.hasCommitment_iff, ChannelKeeper.commitments_afterArrival,
        ← ChannelKeeper.hasCommitment_iff] at hcommitted
      exact hgrows _ (hmindful _ _ _ hcommitted hdecoded haway hdenom)
  | cleared hcleared =>
      exact hmindful _ _ _ (ChannelKeeper.hasCommitment_deleteCommitment.1 hcommitted).2 hdecoded
        haway hdenom
  | kept => exact hmindful _ _ _ hcommitted hdecoded haway hdenom

/-- **A voucher whose trace is not known is not issued.** -/
theorem not_issuable_of_untraced (hm : m.Grounded) (hturn : m.Turn k q l) (hmindful : k.Mindful)
    (hvoucher : d.isVoucher = true) (hunknown : l.traces.contains d = false) :
    ¬ m.Issuable k l d := by
  intro h
  have hbefore : k.traces.contains d ≠ true := by
    intro hknown
    rw [hturn.contains_traces hknown] at hunknown
    cases hunknown
  cases h with
  | named hnames =>
      rw [(hm _ _ hnames).1] at hvoucher
      cases hvoucher
  | departed hpath haway => exact hbefore (ChannelKeeper.contains_of_fullPath hvoucher hpath)
  | @arrived packet path hdenom hforeign hkeeper =>
      rw [hkeeper, ChannelKeeper.afterArrival, hforeign, if_neg Bool.false_ne_true,
        ChannelKeeper.contains_learn.2 (.inr rfl)] at hunknown
      cases hunknown
  | refunded hrefunds haway =>
      exact hbefore (hmindful _ _ _ hrefunds.committed hrefunds.decoded haway hrefunds.denom)

variable {β : Type} [Ledger β] {s t : Stage ChannelKeeper β}

/-- **A step that sends a legible token keeps a stage traceable.** -/
theorem traceable_step (hr : m.registry.Valid) (hm : m.Grounded) {reply : Reply}
    (hstep : m.Step s q reply t) (hq : q.Legible) (hs : s.Traceable) : t.Traceable := by
  have hturn := turn_of_step hstep
  refine ⟨hturn.traced hs.traced, hturn.mindful hr hm hs.traced hq hs.mindful, ?_⟩
  intro d hvoucher hunknown
  have hbefore : s.keeper.traces.contains d = false := by
    cases hknown : s.keeper.traces.contains d with
    | false => rfl
    | true =>
        rw [hturn.contains_traces hknown] at hunknown
        cases hunknown
  obtain ⟨js, hposts, hissues⟩ := exists_journal_issuable hr hstep
  obtain ⟨hsupply, hbalance⟩ := hs.absent d hvoucher hbefore
  -- what a ledger has is what its view shows
  have hafter : Absent (view t.ledger) d := by
    refine Journal.absent_post hposts (fun hd => ?_) ⟨hsupply, hbalance⟩
    exact not_issuable_of_untraced hm hturn hs.mindful hvoucher hunknown (hissues d hd)
  exact ⟨hafter.supply, hafter.balance⟩

theorem traceable_run [LawfulLedger β] (hr : m.registry.Valid) (hm : m.Grounded)
    (hs : s.Traceable) {qs : List Request} (hqs : ∀ q ∈ qs, q.Legible) :
    (m.run s qs).Traceable :=
  m.run_induction hs fun t ht q hq => traceable_step hr hm (m.step_serve t q) (hqs q hq) ht

end TransferModule

/-! ## Sending vouchers on -/

theorem ChannelKeeper.ofLedger_of_takeOut_error {β : Type} [Ledger β] {s t : Stage ChannelKeeper β}
    {source : Hop} {path : String} {sender : Address} {token : Coin} {e : TransferError}
    (h : takeOut source path sender token s = .error e t) : e.OfLedger := by
  rw [takeOut] at h
  simp only [ite_eq_error_iff, bind_eq_error_iff, onLedger_eq_error_iff] at h
  rcases h with ⟨-, error, -, he, -⟩ | ⟨-, ⟨error, -, he, -⟩ | ⟨-, _, -, error, -, he, -⟩⟩
  · exact ⟨error, he⟩
  · exact ⟨error, he⟩
  · exact ⟨error, he⟩

/-- **A message lacks a trace only if its token is a voucher without one.** -/
theorem ChannelKeeper.untraced_of_send {β : Type} [Ledger β] {s t : Stage ChannelKeeper β}
    {message : TransferMessage} {d : Denom}
    (h : send message s = .error (.traceNotFound d) t) :
    message.token.denom.isVoucher = true ∧
      s.keeper.traces.contains message.token.denom = false := by
  rw [send] at h
  simp only [get_bind_eq_error_iff, guard_eq_error_iff, reduceCtorEq, false_and, and_false,
    false_or] at h
  obtain ⟨-, -, h⟩ := h
  cases hchannel : s.keeper.channels.get? message.sourceChannel with
  | none =>
      rw [hchannel] at h
      cases (throw_eq_error_iff.1 h).1
  | some remote =>
      simp only [hchannel, bind_eq_error_iff, guard_eq_error_iff, parsed_eq_error_iff,
        parsed_eq_ok_iff, ofExcept_eq_error_iff, ofExcept_eq_ok_iff, modify_eq_error_iff,
        emit_eq_error_iff, pure_eq_error_iff, reduceCtorEq, false_and, and_false, exists_false,
        false_or, or_false] at h
      obtain ⟨-, -, _, _, -, ⟨hpath, -⟩ | ⟨_, _, -, htake⟩⟩ := h
      · obtain ⟨hvoucher, hunknown, -⟩ := fullPath_eq_error_iff.1 hpath
        exact ⟨hvoucher, hunknown⟩
      · -- taking the token out asks the ledger only
        obtain ⟨error, he⟩ := ofLedger_of_takeOut_error htake
        cases he

/-- A message that is sent as it is or converted lacks a trace only if what it is sent as lacks
one. -/
theorem Outbound.untraced_of_sendAs {β : Type} [Ledger β] {s t : Stage ChannelKeeper β}
    {r : Registry} {entry : Entry} {message : TransferMessage} {d : Denom}
    (h : sendAs r entry message s = .error (.traceNotFound d) t) :
    ∃ denom, (denom = message.token.denom ∨
        (r.entry entry.counterparty).isEmpty = false ∧
          Denom.parse (r.entry entry.counterparty).denom = .ok denom) ∧
      denom.isVoucher = true ∧ s.keeper.traces.contains denom = false := by
  rw [sendAs] at h
  simp only [ite_eq_error_iff, bind_eq_error_iff, throw_eq_error_iff, throw_eq_ok_iff,
    reduceCtorEq, false_and, and_false, exists_false, false_or, or_false] at h
  rcases h with ⟨-, h⟩ | ⟨-, hregistered, ⟨-, h⟩ | ⟨-, h⟩⟩
  · exact ⟨_, .inl rfl, ChannelKeeper.untraced_of_send h⟩
  · exact ⟨_, .inl rfl, ChannelKeeper.untraced_of_send h⟩
  -- of the conversion no step touches the keeper or asks for a trace
  rw [convertAndSend] at h
  simp only [bind_eq_error_iff, parsed_eq_error_iff, parsed_eq_ok_iff, guard_eq_error_iff,
    onLedger_eq_error_iff, onLedger_eq_ok_iff, emit_eq_error_iff, emit_eq_ok_iff, reduceCtorEq,
    false_and, and_false, exists_false, false_or] at h
  obtain ⟨_, _, ⟨-, rfl⟩, denom, _, ⟨hdenom, rfl⟩, -, -, _, ⟨_, -, rfl⟩, -, _, ⟨_, -, rfl⟩, -, _,
    ⟨_, -, rfl⟩, -, _, rfl, hsend⟩ := h
  refine ⟨denom, .inr ⟨by simpa using hregistered, hdenom⟩, ?_⟩
  exact ChannelKeeper.untraced_of_send hsend

namespace TransferModule

variable {m : TransferModule} {β : Type} [Ledger β] {s t : Stage ChannelKeeper β} {d : Denom}

/-- **A token whose trace is known is never refused for the lack of a trace.** -/
theorem serve_ne_traceNotFound (hr : m.registry.Valid) (hm : m.Grounded)
    {message : TransferMessage} (hknown : s.keeper.traces.contains message.token.denom = true) :
    (m.serve s (.transfer message)).1 ≠ .refused (.traceNotFound d) := by
  intro hreply
  rw [serve] at hreply
  cases h : m.transfer message s with
  | ok response u =>
      rw [h] at hreply
      cases hreply
  | error e u =>
      rw [h] at hreply
      cases hreply
      rw [transfer, Outbound.transfer] at h
      simp only [guard_eq_error_iff, atomically_eq_error_iff, reduceCtorEq, false_and, and_false,
        false_or] at h
      obtain ⟨-, -, -, _, hsent, -⟩ := h
      obtain ⟨denom, hdenom, hvoucher, hunknown⟩ := Outbound.untraced_of_sendAs hsent
      rcases hdenom with rfl | ⟨hregistered, hparse⟩
      · cases hunknown.symm.trans hknown
      · -- a counterpart is no voucher
        have htext : denom.text =
            (m.registry.entry message.token.denom.text).counterparty := by
          rw [Denom.text_of_parse hparse, hr.denom_entry hregistered]
        rw [← htext] at hregistered
        rw [(hm _ denom ⟨htext.symm, hregistered⟩).1] at hvoucher
        cases hvoucher

omit [Ledger β] in
/-- A token that passes leaves as it is. -/
theorem Ships.token_of_passes {k : ChannelKeeper} {message : TransferMessage} {sh : Shipment}
    (h : m.Ships k message sh)
    (hpasses : Outbound.Passes m.registry (m.registry.entry message.token.denom.text)) :
    sh.token = message.token := by
  cases h.carries with
  | literal _ hliteral _ => exact hliteral
  | converted hconverts _ _ _ _ =>
      have hle := (hpasses hconverts.named).2
      exact absurd hconverts.lower (UInt32.not_lt.2 hle)

end TransferModule

/-- Whether the packet under a key has a path in it that hashes to a denomination. -/
def ChannelKeeper.Carries (k : ChannelKeeper) (key : PacketKey) (d : Denom) : Prop :=
  ∃ packet data, k.commitments.get? key = some packet ∧ packet.decodeData = .ok data ∧
    Trace.voucher data.denom = d

/-- **The packet for a voucher carries the voucher.** -/
theorem ChannelKeeper.carries_commit {k : ChannelKeeper} (hk : k.Traced)
    (message : TransferMessage) {remote : Hop} {path : String}
    (hvoucher : message.token.denom.isVoucher = true)
    (hpath : k.fullPath message.token.denom = .ok path) :
    (k.commit (k.outgoing message remote path)).Carries
      ⟨message.sourceChannel, k.sequenceOf message.sourceChannel⟩ message.token.denom := by
  refine ⟨k.outgoing message remote path, _, ?_, k.decodeData_outgoing message remote path,
    (hk.eq_voucher hvoucher hpath).symm⟩
  rw [commit, FiniteMap.get?_insert]
  exact if_pos rfl

namespace TransferModule

variable {m : TransferModule} {β : Type} [Ledger β] {s t : Stage ChannelKeeper β} {d : Denom}

/-- What holds of a message with a voucher if the voucher can be traced, whether the message is
sent by the keeper itself or by the module. -/
structure Forwards (m : TransferModule) (s : Stage ChannelKeeper β) (message : TransferMessage) :
    Prop where
  keeperTraces : ∀ d t, ChannelKeeper.send message s ≠ .error (.traceNotFound d) t
  keeperCarries : ∀ response t, ChannelKeeper.send message s = .ok response t →
    t.keeper.Carries ⟨message.sourceChannel, response.sequence⟩ message.token.denom
  traces : ∀ d, (m.serve s (.transfer message)).1 ≠ .refused (.traceNotFound d)
  /-- Here the voucher must not be one that is converted first. -/
  carries : ∀ response, (m.serve s (.transfer message)).1 = .sent response →
    Outbound.Passes m.registry (m.registry.entry message.token.denom.text) →
      (m.serve s (.transfer message)).2.keeper.Carries
        ⟨message.sourceChannel, response.sequence⟩ message.token.denom

/-- The packet of a transfer that passes carries its voucher. -/
theorem carries_of_sent {message : TransferMessage} {reply : Reply}
    (hstep : m.Step s (.transfer message) reply t) {response : TransferResponse}
    (hreply : reply = .sent response) (hs : s.keeper.Traced)
    (hvoucher : message.token.denom.isVoucher = true)
    (hpasses : Outbound.Passes m.registry (m.registry.entry message.token.denom.text)) :
    t.keeper.Carries ⟨message.sourceChannel, response.sequence⟩ message.token.denom := by
  cases hstep with
  | @sent _ sh _ hships hposts hkeeper hevents =>
      cases hreply
      have htoken := hships.token_of_passes hpasses
      rw [hkeeper, ← htoken]
      rw [← htoken] at hvoucher
      exact ChannelKeeper.carries_commit hs (sh.inner message) hvoucher hships.admits.path
  | refunded hfails hrefunds hposts hkeeper hevents => cases hreply
  | refused _ e => cases hreply

/-- **A voucher that is there can be sent on.** -/
theorem forwards_of_traceable [LawfulLedger β] (hr : m.registry.Valid) (hm : m.Grounded)
    (hs : s.Traceable) {message : TransferMessage}
    (hvoucher : message.token.denom.isVoucher = true)
    (hthere : ¬ Absent s.ledger message.token.denom) : m.Forwards s message := by
  have hknown : s.keeper.traces.contains message.token.denom = true := by
    cases hknown : s.keeper.traces.contains message.token.denom with
    | true => rfl
    | false => exact (hthere (hs.absent _ hvoucher hknown)).elim
  refine ⟨fun d t h => ?_, fun response t h => ?_, fun d => ?_, fun response hsent hpasses => ?_⟩
  · cases (ChannelKeeper.untraced_of_send h).2.symm.trans hknown
  · obtain ⟨remote, sender, path, hadmits, b, -, rfl, rfl⟩ := ChannelKeeper.send_eq_ok_iff.1 h
    exact ChannelKeeper.carries_commit hs.traced message hvoucher hadmits.path
  · exact serve_ne_traceNotFound hr hm hknown
  · exact carries_of_sent (m.step_serve s (.transfer message)) hsent hs.traced hvoucher hpasses

/-- **Vouchers stay traceable.** Let the keeper be fresh, let there be no vouchers at the start,
and let counterparts be denominations of this chain. Then after every run that sends legible tokens
each stored trace is read off its own path, has hops, and stands under the voucher that it is held
under, and every voucher that is there has its trace stored. So a message with a voucher that
somebody holds is never refused for the lack of a trace, and the path that goes into its packet
hashes back to the voucher. -/
theorem vouchers_traceable [LawfulLedger β] (m : TransferModule) (hr : m.registry.Valid)
    (hm : m.Grounded) (start : Stage ChannelKeeper β) (hfresh : start.keeper.Fresh)
    (habsent : ∀ d, d.isVoucher = true → Absent start.ledger d) (qs : List Request)
    (hqs : ∀ q ∈ qs, q.Legible) :
    let s := m.run start qs
    (∀ d trace, s.keeper.traces.get? d = some trace → trace.localDenom = .ok d ∧
        d.isVoucher = true ∧ trace.hops ≠ [] ∧ Trace.parse trace.fullPath = trace) ∧
      (∀ d, d.isVoucher = true → 0 < supply s.ledger d →
        ∃ trace, s.keeper.traces.get? d = some trace) ∧
      ∀ message account, message.token.denom.isVoucher = true →
        0 < balance s.ledger account message.token.denom → m.Forwards s message := by
  have hstart : start.Traceable := by
    refine ⟨ChannelKeeper.traced_of_empty hfresh.traces, ?_, fun d hd _ => habsent d hd⟩
    intro packet data denom hcommitted
    rw [ChannelKeeper.hasCommitment_iff, hfresh.commitments] at hcommitted
    cases hcommitted
  have hs := traceable_run hr hm hstart hqs
  refine ⟨fun d trace hstored => ?_, fun d hvoucher hsupply => ?_,
    fun message account hvoucher hheld => ?_⟩
  · obtain ⟨hproper, hforeign, hlocal⟩ := hs.traced d trace hstored
    refine ⟨hlocal, Trace.isVoucher_of_localDenom hforeign hlocal, ?_, hproper⟩
    intro hhops
    rw [Trace.isNative, hhops] at hforeign
    cases hforeign
  · cases hstored : (m.run start qs).keeper.traces.get? d with
    | some trace => exact ⟨trace, rfl⟩
    | none =>
        have hunknown : (m.run start qs).keeper.traces.contains d = false := by
          rw [FiniteMap.contains, hstored]
          rfl
        rw [(hs.absent d hvoucher hunknown).supply] at hsupply
        exact absurd hsupply (Nat.lt_irrefl 0)
  · refine forwards_of_traceable hr hm hs hvoucher fun hnone => ?_
    rw [hnone.balance] at hheld
    exact absurd hheld (Nat.lt_irrefl 0)

end TransferModule

namespace Sample

theorem grounded_desk : desk.Grounded := by
  intro name d hnames
  rw [eq_xrowan_of_counterparty hnames.counterparty]
  exact ⟨by decide, by decide⟩

/-- At the start there is `rowan` only. -/
theorem absent_stage {d : Denom} (hd : d.isVoucher = true) : Absent stage.ledger d := by
  have hne : d ≠ rowan := by
    rintro rfl
    exact absurd hd (by decide)
  constructor
  · simp only [stage, MemoryLedger.fund, credit, LawfulLedger.supply_setSupply, hne, if_false]
    rfl
  · intro account
    simp only [stage, MemoryLedger.fund, credit, LawfulLedger.balance_setSupply,
      LawfulLedger.balance_setBalance, hne, and_false, if_false]
    rfl

/-- The first user sends some `uatom` back. -/
def onward : TransferMessage :=
  { message with token := ⟨atom, 2⟩ }

/-- Some `uatom` comes in, and part of it is sent back. -/
def visit : List Request :=
  [opening, .receive (deposit 5), .transfer onward]

theorem legible_visit : ∀ q ∈ visit, q.Legible := by
  have honward : (Request.transfer onward).Legible := .inl (Trace.isVoucher_voucher _)
  intro q hq
  simp only [visit, List.mem_cons, List.not_mem_nil, or_false] at hq
  rcases hq with rfl | rfl | rfl
  · trivial
  · trivial
  · exact honward

theorem serve_onward :
    0 < supply (desk.run stage visit).ledger atom ∧
      0 < balance (desk.run stage visit).ledger (user 1) atom ∧
      (desk.serve (desk.run stage visit) (.transfer onward)).1 = .sent ⟨2⟩ := by
  decide +kernel

/-- The desk has no entry for the voucher, so the voucher leaves as it is. -/
theorem passes_atom : Outbound.Passes desk.registry (desk.registry.entry atom.text) := by
  have hnamed : (desk.registry.entry atom.text).hasCounterparty = false := by
    decide +kernel
  intro h
  rw [hnamed] at h
  cases h

end Sample

/-- The voucher of the `uatom` that came in has its trace stored, and it is sent back under its own
path. -/
theorem TransferModule.vouchers_traceable_sample :
    (∃ trace, (Sample.desk.run Sample.stage Sample.visit).keeper.traces.get? Sample.atom =
        some trace) ∧
      Sample.desk.Forwards (Sample.desk.run Sample.stage Sample.visit) Sample.onward ∧
      (Sample.desk.serve (Sample.desk.run Sample.stage Sample.visit) (.transfer Sample.onward)).1 =
        .sent ⟨2⟩ ∧
      (Sample.desk.serve (Sample.desk.run Sample.stage Sample.visit)
        (.transfer Sample.onward)).2.keeper.Carries ⟨Sample.channel, 2⟩ Sample.atom := by
  obtain ⟨-, hstored, hforwards⟩ := vouchers_traceable Sample.desk
    (Registry.valid_ofEntries Sample.ofEntries_entries) Sample.grounded_desk Sample.stage
    ⟨rfl, rfl, rfl, rfl⟩ (fun _ => Sample.absent_stage) Sample.visit Sample.legible_visit
  obtain ⟨hsupply, hheld, hsent⟩ := Sample.serve_onward
  have hvoucher : Sample.atom.isVoucher = true := Trace.isVoucher_voucher _
  have honward := hforwards Sample.onward (Sample.user 1) hvoucher hheld
  exact ⟨hstored Sample.atom hvoucher hsupply, honward, hsent,
    honward.carries ⟨2⟩ hsent Sample.passes_atom⟩

end Interchain
