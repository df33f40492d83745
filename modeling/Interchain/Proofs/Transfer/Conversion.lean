import Interchain.Proofs.Transfer.Action
import Interchain.Proofs.Transfer.Precision
import Interchain.Transfer.Outbound
import Interchain.Transfer.Reversal

/-!
# What conversions do

A conversion on the way out and a conversion back move coins by journals that are opposites of
each other (`Outbound.inverse_conversion`). `Plan.execute_eq_ok_iff`, `Reversal.reverse_eq_ok` and
`Outbound.convertAndSend_eq_ok_iff` say when they succeed and what the stage is then. What the
ledger has to have for the way back is told by `Plan.exists_post_journal_iff`.
-/

set_option autoImplicit false

namespace Interchain

open Interchain.Action Ledger

variable {κ β : Type} [Ledger β] {s t : Stage κ β}

/-! ## Conversion into the unit -/

namespace Plan

/-- How an amount of the counterpart becomes the unit. -/
def journal (p : Plan) (account : Address) (a : Amount) : Journal :=
  [.pay account custodian (p.exchange a).burned, .burn transferModule (p.exchange a).burned,
    .pay custodian account (p.exchange a).released]

/-- **When the counterpart is converted into the unit, and what that leaves behind.** -/
theorem execute_eq_ok_iff {p : Plan} {account : Address} {a : Amount} {e : Exchange} :
    p.execute account a s = .ok e t ↔
      e = p.exchange a ∧
        ∃ b, Journal.post s.ledger (p.journal account a) = .ok b ∧ t = { s with ledger := b } := by
  rw [execute, journal]
  simp only [bind_eq_ok_iff, onLedger_eq_ok_iff, pure_eq_ok_iff, Journal.post_cons_eq_ok_iff,
    Posting.post, Posting.operation, Journal.post_nil, sendToModule, sendFromModule]
  constructor
  · rintro ⟨-, _, ⟨b, hb, rfl⟩, -, _, ⟨c, hc, rfl⟩, -, _, ⟨d, hd, rfl⟩, rfl, rfl⟩
    exact ⟨rfl, d, ⟨b, hb, c, hc, d, hd, rfl⟩, rfl⟩
  · rintro ⟨rfl, d, ⟨b, hb, c, hc, _, hd, hlast⟩, rfl⟩
    cases hlast
    exact ⟨(), _, ⟨b, hb, rfl⟩, (), _, ⟨c, hc, rfl⟩, (), _, ⟨d, hd, rfl⟩, rfl, rfl⟩

theorem keeper_of_execute_error {p : Plan} {account : Address} {a : Amount} {e : TransferError}
    (h : p.execute account a s = .error e t) : t.keeper = s.keeper := by
  rw [execute] at h
  simp only [bind_eq_error_iff, onLedger_eq_error_iff, onLedger_eq_ok_iff, pure_eq_error_iff,
    and_false, exists_false, or_false] at h
  rcases h with ⟨_, -, -, rfl⟩ | ⟨-, _, ⟨_, -, rfl⟩, ⟨_, -, -, rfl⟩ |
    ⟨-, _, ⟨_, -, rfl⟩, _, -, -, rfl⟩⟩
  · rfl
  · rfl
  · rfl

/-- Whether a ledger lets an amount of the counterpart be exchanged for the unit, whoever holds
it. -/
structure Redeemable (p : Plan) (b : β) (a : Amount) : Prop where
  supplied : a ≤ supply b p.transport
  kept : a.restore p.po ≤ balance b custodian p.unit

section Redeem

variable [LawfulLedger β] {p : Plan} {b c d : β} {account : Address} {a : Amount}

/-- Taking in and burning the counterpart leaves what was kept of the unit. -/
theorem kept_of_burned (hne : p.unit ≠ p.transport)
    (hpay : Posting.post b (.pay account custodian (p.exchange a).burned) = .ok c)
    (hburn : Posting.post c (.burn transferModule (p.exchange a).burned) = .ok d) :
    balance d custodian p.unit = balance b custodian p.unit := by
  have hother : ∀ owner account, (p.exchange a).burned.share owner account p.unit = 0 :=
    Coin.share_of_denom_ne hne
  have hpaid := Posting.balance_post hpay custodian p.unit
  have hburned := Posting.balance_post hburn custodian p.unit
  simp only [Posting.change, hother] at hpaid hburned
  apply Int.ofNat.inj
  show (balance d custodian p.unit : Int) = balance b custodian p.unit
  omega

/-- **When a plan can be executed.** The account has to hold the counterpart, the supply has to
cover what is burned, and the module has to have kept what is given out. -/
theorem exists_post_journal_iff (hne : p.unit ≠ p.transport)
    (hburner : (permissions b transferModule).burner = true) :
    (∃ c, Journal.post b (p.journal account a) = .ok c) ↔
      a ≤ balance b account p.transport ∧ p.Redeemable b a := by
  constructor
  · rintro ⟨e, he⟩
    obtain ⟨c, hpay, he⟩ := Journal.post_cons_eq_ok_iff.1 he
    obtain ⟨d, hburn, he⟩ := Journal.post_cons_eq_ok_iff.1 he
    obtain ⟨e, hgive, -⟩ := Journal.post_cons_eq_ok_iff.1 he
    have hheld : a ≤ balance b account p.transport := (Posting.exists_post_iff _).1 ⟨c, hpay⟩
    have hsupplied : a ≤ supply c p.transport := ((Posting.exists_post_iff _).1 ⟨d, hburn⟩).2.2
    have hkept : a.restore p.po ≤ balance d custodian p.unit :=
      (Posting.exists_post_iff _).1 ⟨e, hgive⟩
    rw [supply_of_send hpay] at hsupplied
    rw [kept_of_burned hne hpay hburn] at hkept
    exact ⟨hheld, hsupplied, hkept⟩
  · rintro ⟨hheld, hsupplied, hkept⟩
    obtain ⟨c, hpay⟩ : ∃ c, Posting.post b (.pay account custodian (p.exchange a).burned) = .ok c :=
      (Posting.exists_post_iff _).2 hheld
    -- what was just paid can be burned
    obtain ⟨d, hburn⟩ :
        ∃ d, Posting.post c (.burn transferModule (p.exchange a).burned) = .ok d := by
      refine (Posting.exists_post_iff _).2 ⟨?_, Posting.covered_inverse hpay trivial, ?_⟩
      · rw [permissions_of_send hpay]
        exact hburner
      · rw [supply_of_send hpay]
        exact hsupplied
    obtain ⟨e, hgive⟩ :
        ∃ e, Posting.post d (.pay custodian account (p.exchange a).released) = .ok e := by
      apply (Posting.exists_post_iff _).2
      show a.restore p.po ≤ balance d custodian p.unit
      rw [kept_of_burned hne hpay hburn]
      exact hkept
    refine ⟨e, Journal.post_cons_eq_ok_iff.2 ⟨c, hpay, ?_⟩⟩
    refine Journal.post_cons_eq_ok_iff.2 ⟨d, hburn, ?_⟩
    exact Journal.post_cons_eq_ok_iff.2 ⟨e, hgive, rfl⟩

end Redeem

/-- The postings of a plan that may or may not be there. -/
def journalOf (plan? : Option Plan) (account : Address) (a : Amount) : Journal :=
  match plan? with
  | none => []
  | some p => p.journal account a

end Plan

/-! ## Reversal -/

namespace Reversal

/-- The plan that undoes the conversion behind a failed packet. -/
def plan? (r : Registry) (packet : Packet) (data : PacketData) : Option Plan :=
  (recognize r packet data).map (·.2)

/-- What the refund of an amount comes to. -/
def outcome (plan? : Option Plan) (a : Amount) : ReversalOutcome :=
  match plan? with
  | none => .notConverted
  | some p => .reversed (p.exchange a).burned (p.exchange a).released

/-- The report of a reversal. -/
def report (plan? : Option Plan) (sender : Address) (a : Amount) : EventLog :=
  match plan? with
  | none => []
  | some p =>
      let e := p.exchange a
      [⟨"convert_refund", [("module", transferModule), ("refund_receiver", sender.text),
        ("refund_denom", e.released.denom.text), ("refund_amount", toString e.released.amount),
        ("convert_denom", e.burned.denom.text), ("convert_amount", toString e.burned.amount)]⟩]

variable [LawfulLedger β] {r : Registry} {packet : Packet} {data : PacketData}
  {sender : Address}

/-- **What a reversal does.** -/
theorem reverse_eq_ok (hsender : Address.parse data.sender = .ok sender) {o : ReversalOutcome}
    (h : reverse r packet data s = .ok o t) :
    Journal.post (view s.ledger) (Plan.journalOf (plan? r packet data) sender data.amount) =
        .ok (view t.ledger) ∧
      o = outcome (plan? r packet data) data.amount ∧
      t.keeper = s.keeper ∧
      t.events = s.events ++ report (plan? r packet data) sender data.amount := by
  rw [reverse] at h
  rw [plan?]
  cases hrecognize : recognize r packet data with
  | none =>
      rw [hrecognize] at h
      obtain ⟨rfl, rfl⟩ := pure_eq_ok_iff.1 h
      exact ⟨rfl, rfl, rfl, (List.append_nil _).symm⟩
  | some shaped =>
      obtain ⟨shape, p⟩ := shaped
      simp only [hrecognize, hsender, bind_eq_ok_iff, parsed_eq_ok_iff, atomically_eq_ok_iff,
        Plan.execute_eq_ok_iff, emit_eq_ok_iff, pure_eq_ok_iff] at h
      obtain ⟨_, _, ⟨hparse, rfl⟩, _, _, ⟨_, ⟨rfl, b, hb, rfl⟩, rfl⟩, -, _, rfl, rfl, rfl⟩ := h
      cases hparse
      -- the plan was executed on a branch, which was committed
      refine ⟨Journal.post_view_of_branch hb, rfl, rfl, ?_⟩
      simp [report]

/-- A reversal goes through if its postings do. -/
theorem exists_reverse (hsender : Address.parse data.sender = .ok sender) {v : LedgerView}
    (h : Journal.post (view s.ledger) (Plan.journalOf (plan? r packet data) sender data.amount) =
      .ok v) : ∃ o t, reverse r packet data s = .ok o t := by
  rw [reverse]
  rw [plan?] at h
  cases hrecognize : recognize r packet data with
  | none => exact ⟨_, s, rfl⟩
  | some shaped =>
      obtain ⟨shape, p⟩ := shaped
      rw [hrecognize] at h
      obtain ⟨b, hb, -⟩ := Journal.exists_branch_of_view h
      simp only [hsender, bind_eq_ok_iff, parsed_eq_ok_iff, atomically_eq_ok_iff,
        Plan.execute_eq_ok_iff, emit_eq_ok_iff, pure_eq_ok_iff]
      exact ⟨_, _, sender, s, ⟨rfl, rfl⟩, _, _, ⟨_, ⟨rfl, b, hb, rfl⟩, rfl⟩, (), _, rfl, rfl, rfl⟩

omit [LawfulLedger β] in
theorem keeper_of_reverse_error {e : TransferError} (h : reverse r packet data s = .error e t) :
    t.keeper = s.keeper := by
  rw [reverse] at h
  cases hrecognize : recognize r packet data with
  | none =>
      rw [hrecognize] at h
      exact (pure_eq_error_iff.1 h).elim
  | some shaped =>
      obtain ⟨shape, p⟩ := shaped
      simp only [hrecognize, bind_eq_error_iff, parsed_eq_error_iff, parsed_eq_ok_iff,
        atomically_eq_error_iff, emit_eq_error_iff, pure_eq_error_iff, and_false, exists_false,
        or_false] at h
      rcases h with ⟨_, -, -, rfl⟩ | ⟨_, _, ⟨-, rfl⟩, _, herror, rfl⟩
      · rfl
      · exact (Plan.keeper_of_execute_error herror :)

end Reversal

/-! ## Conversion on the way out -/

namespace Outbound

/-- The decimals that the token of an entry has over its counterpart. -/
def excess (r : Registry) (entry : Entry) : Nat :=
  entry.decimals.toNat - (r.entry entry.counterparty).decimals.toNat

/-- Whether a token leaves as its counterpart. -/
structure Converts (r : Registry) (entry : Entry) : Prop where
  named : entry.hasCounterparty = true
  registered : (r.entry entry.counterparty).isEmpty = false
  lower : (r.entry entry.counterparty).decimals < entry.decimals

/-- Whether a token leaves as it is. -/
def Passes (r : Registry) (entry : Entry) : Prop :=
  entry.hasCounterparty = true → (r.entry entry.counterparty).isEmpty = false ∧
    entry.decimals ≤ (r.entry entry.counterparty).decimals

/-- How a token becomes its counterpart. -/
def conversion (sender : Address) (deducted converted : Coin) : Journal :=
  [.pay sender custodian deducted, .mint transferModule converted,
    .pay custodian sender converted]

/-- A plan that burns what was minted and releases what was deducted takes a conversion back. -/
theorem inverse_conversion {p : Plan} {account : Address} {a : Amount} :
    Journal.inverse (conversion account (p.exchange a).released (p.exchange a).burned) =
      p.journal account a :=
  rfl

/-- The report of a conversion. -/
def report (deducted converted : Coin) : Event :=
  ⟨"convert_transfer", [("module", transferModule), ("sent_amount", toString deducted.amount),
    ("sent_denom", deducted.denom.text), ("convert_amount", toString converted.amount),
    ("convert_denom", converted.denom.text)]⟩

variable [Transport κ] {r : Registry} {entry : Entry} {message : TransferMessage}
  {response : TransferResponse}

/-- A message is sent as it is or converted, and which of the two the registry decides. -/
theorem sendAs_eq_ok_iff :
    sendAs r entry message s = .ok response t ↔
      (Passes r entry ∧ Transport.send message s = .ok response t) ∨
      (Converts r entry ∧ convertAndSend (r.entry entry.counterparty) (excess r entry) message s =
        .ok response t) := by
  rw [sendAs]
  cases hnamed : entry.hasCounterparty with
  | false =>
      -- without a counterpart the token leaves as it is
      have hpasses : Passes r entry := fun h => by simp [hnamed] at h
      have hno : ¬ Converts r entry := fun h => by simp [h.named] at hnamed
      simp [hpasses, hno]
  | true =>
      simp only [Bool.not_true, Bool.false_eq_true, if_false, guard_eq_ok_iff]
      cases hempty : (r.entry entry.counterparty).isEmpty with
      | true =>
          -- a counterpart that is not registered stops the message
          have hno : ¬ Converts r entry := fun h => by simp [h.registered] at hempty
          have hstop : ¬ Passes r entry := fun h => by simp [(h hnamed).1] at hempty
          simp [hno, hstop]
      | false =>
          by_cases hle : entry.decimals ≤ (r.entry entry.counterparty).decimals
          · have hpasses : Passes r entry := fun _ => ⟨hempty, hle⟩
            have hno : ¬ Converts r entry := fun h => UInt32.not_lt.2 hle h.lower
            simp [hle, hpasses, hno]
          · have hconverts : Converts r entry := ⟨hnamed, hempty, UInt32.not_le.1 hle⟩
            have hstop : ¬ Passes r entry := fun h => hle (h hnamed).2
            simp [hle, hconverts, hstop, excess]

/-- **When a token is converted and sent, and what that leaves behind.** -/
theorem convertAndSend_eq_ok_iff {counterpart : Entry} {po : Nat} :
    convertAndSend counterpart po message s = .ok response t ↔
      ∃ sender, Address.parse message.sender = .ok sender ∧
        ∃ denom, Denom.parse counterpart.denom = .ok denom ∧
          (message.token.amount.reduce po).converted ≠ 0 ∧
          ∃ b, Journal.post s.ledger (conversion sender
              ⟨message.token.denom, (message.token.amount.reduce po).deducted⟩
              ⟨denom, (message.token.amount.reduce po).converted⟩) = .ok b ∧
            Transport.send { message with
                token := ⟨denom, (message.token.amount.reduce po).converted⟩ }
              ⟨s.keeper, b, s.events ++ [report
                ⟨message.token.denom, (message.token.amount.reduce po).deducted⟩
                ⟨denom, (message.token.amount.reduce po).converted⟩]⟩ = .ok response t := by
  unfold convertAndSend conversion
  simp only [bind_eq_ok_iff, parsed_eq_ok_iff, guard_eq_ok_iff, onLedger_eq_ok_iff,
    emit_eq_ok_iff, Journal.post_cons_eq_ok_iff, Posting.post, Posting.operation,
    Journal.post_nil, sendToModule, sendFromModule]
  constructor
  · rintro ⟨sender, _, ⟨hsender, rfl⟩, denom, _, ⟨hdenom, rfl⟩, hzero, -, _, ⟨b, hb, rfl⟩,
      -, _, ⟨c, hc, rfl⟩, -, _, ⟨d, hd, rfl⟩, -, _, rfl, hsend⟩
    exact ⟨sender, hsender, denom, hdenom, hzero, d, ⟨b, hb, c, hc, d, hd, rfl⟩, hsend⟩
  · rintro ⟨sender, hsender, denom, hdenom, hzero, _, ⟨b, hb, c, hc, d, hd, hlast⟩, hsend⟩
    cases hlast
    exact ⟨sender, _, ⟨hsender, rfl⟩, denom, _, ⟨hdenom, rfl⟩, hzero, (), _, ⟨b, hb, rfl⟩,
      (), _, ⟨c, hc, rfl⟩, (), _, ⟨_, hd, rfl⟩, (), _, rfl, hsend⟩

/-- A message that is refused leaves the keeper as a refused sending leaves it. -/
theorem keeper_of_sendAs_error
    (hsend : ∀ {message : TransferMessage} {s t : Stage κ β} {e : TransferError},
      Transport.send message s = .error e t → t.keeper = s.keeper)
    {e : TransferError} (h : sendAs r entry message s = .error e t) : t.keeper = s.keeper := by
  rw [sendAs] at h
  simp only [ite_eq_error_iff, bind_eq_error_iff, throw_eq_error_iff, throw_eq_ok_iff, false_and,
    exists_false, or_false] at h
  rcases h with ⟨-, h⟩ | ⟨-, ⟨-, -, rfl⟩ | ⟨-, ⟨-, h⟩ | ⟨-, h⟩⟩⟩
  · exact hsend h
  · rfl
  · exact hsend h
  -- of the conversion no step touches the keeper, so only the sending may
  rw [convertAndSend] at h
  simp only [bind_eq_error_iff, parsed_eq_error_iff, parsed_eq_ok_iff, guard_eq_error_iff,
    onLedger_eq_error_iff, onLedger_eq_ok_iff, emit_eq_error_iff, emit_eq_ok_iff, false_or] at h
  rcases h with ⟨_, -, -, rfl⟩ | ⟨_, _, ⟨-, rfl⟩, ⟨_, -, -, rfl⟩ | ⟨_, _, ⟨-, rfl⟩,
    ⟨-, -, rfl⟩ | ⟨-, ⟨_, -, -, rfl⟩ | ⟨-, _, ⟨_, -, rfl⟩, ⟨_, -, -, rfl⟩ |
    ⟨-, _, ⟨_, -, rfl⟩, ⟨_, -, -, rfl⟩ | ⟨-, _, ⟨_, -, rfl⟩, -, _, rfl, h⟩⟩⟩⟩⟩⟩
  · rfl
  · rfl
  · rfl
  · rfl
  · rfl
  · rfl
  · exact (hsend h :)

end Outbound

end Interchain
