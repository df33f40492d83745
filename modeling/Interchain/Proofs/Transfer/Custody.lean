import Interchain.Proofs.Transfer.Backing
import Interchain.Proofs.Transfer.Escrow

/-!
# The log accounts for the account of the module

Every conversion is reported with what the module took in or gave out. What a log says about that
in all is its custody. A step adds to the account of the module what its own reports say, and to
any other account that it spares nothing at all (`TransferModule.balance_step`): coins that only
pass through the account are not reported, and an operation that is rolled back leaves neither
postings nor reports. So over every run the log reconciles with the account (`log_reconciles`), and
bystanders are left untouched (`bystanders_untouched`).
-/

set_option autoImplicit false

namespace Interchain

open Ledger

/-! ## What a log states -/

/-- What an event states under `amountKey`, if `d` is what it names under `denomKey`. -/
def Event.stated (e : Event) (amountKey denomKey : String) (d : Denom) : Amount :=
  if e.attribute denomKey = some d.text then
    ((e.attribute amountKey).bind fun text => (Amount.parse text).toOption).getD 0
  else 0

/-- An event that states a coin, whatever else is in it. -/
theorem Event.stated_of_coin {e : Event} {amountKey denomKey : String} {coin : Coin}
    (hamount : e.attribute amountKey = some (toString coin.amount))
    (hdenom : e.attribute denomKey = some coin.denom.text) (d : Denom) :
    (e.stated amountKey denomKey d : Int) = coin.worth d := by
  have htext : some coin.denom.text = some d.text ↔ d = coin.denom :=
    ⟨fun h => (Validated.ext (Option.some.inj h)).symm, fun h => by rw [h]⟩
  rw [stated, hdenom, hamount, Coin.worth]
  simp only [htext, Option.bind_some, Amount.parse_toString]
  split
  · rfl
  · rfl

namespace EventLog

/-- What the events of one kind state of a denomination in all. -/
def total (log : EventLog) (kind amountKey denomKey : String) (d : Denom) : Int :=
  ((log.ofKind kind).map fun e => (e.stated amountKey denomKey d : Int)).sum

/-- What the module took into its account, by what a log says of conversions, less what it gave out
in refunds and to receivers. -/
def custody (log : EventLog) (d : Denom) : Int :=
  log.total "convert_transfer" "sent_amount" "sent_denom" d -
    log.total "convert_refund" "refund_amount" "refund_denom" d -
      log.total "convert_received" "amount" "denom" d

variable {log : EventLog} {kind amountKey denomKey : String} {d : Denom}

theorem total_append (logs : EventLog) :
    (log ++ logs).total kind amountKey denomKey d =
      log.total kind amountKey denomKey d + logs.total kind amountKey denomKey d := by
  simp [total, ofKind]

theorem custody_append (log logs : EventLog) (d : Denom) :
    (log ++ logs).custody d = log.custody d + logs.custody d := by
  simp only [custody, total_append]
  omega

theorem total_singleton (e : Event) :
    total [e] kind amountKey denomKey d =
      if e.kind = kind then e.stated amountKey denomKey d else 0 := by
  rw [total, ofKind]
  by_cases h : e.kind = kind
  · simp [h]
  · simp [h]

theorem total_of_other_kinds (h : ∀ e ∈ log, e.kind ≠ kind) :
    log.total kind amountKey denomKey d = 0 := by
  have hnone : log.ofKind kind = [] := by
    rw [ofKind, List.filter_eq_nil_iff]
    simpa using h
  rw [total, hnone]
  rfl

/-- Reports of no conversion do not count. -/
theorem custody_of_other_kinds
    (h : ∀ e ∈ log, e.kind ∉ ["convert_transfer", "convert_refund", "convert_received"])
    (d : Denom) : log.custody d = 0 := by
  have hkind : ∀ kind ∈ ["convert_transfer", "convert_refund", "convert_received"],
      ∀ e ∈ log, e.kind ≠ kind := by
    rintro kind hkind e he rfl
    exact h e he hkind
  rw [custody, total_of_other_kinds (hkind _ (by simp)), total_of_other_kinds (hkind _ (by simp)),
    total_of_other_kinds (hkind _ (by simp))]
  rfl

end EventLog

/-! ## Custody of the reports -/

theorem Outbound.custody_report (deducted converted : Coin) (d : Denom) :
    EventLog.custody [report deducted converted] d = deducted.worth d := by
  obtain ⟨e, he, hkind, hamount, hdenom⟩ : ∃ e, report deducted converted = e ∧
      e.kind = "convert_transfer" ∧
      e.attribute "sent_amount" = some (toString deducted.amount) ∧
      e.attribute "sent_denom" = some deducted.denom.text :=
    ⟨_, rfl, rfl, rfl, rfl⟩
  rw [he]
  simp [EventLog.custody, EventLog.total_singleton, hkind, Event.stated_of_coin hamount hdenom]

/-- A shipment takes in what was converted. -/
theorem Shipment.custody_report (sh : Shipment) (message : TransferMessage) (d : Denom) :
    (sh.report message).custody d = sh.deducted.elim 0 (·.worth d) := by
  have hsend : EventLog.custody [ChannelKeeper.sendReport (sh.inner message) sh.path] d = 0 :=
    EventLog.custody_of_other_kinds (by simp [ChannelKeeper.sendReport]) d
  rw [report]
  cases hdeducted : sh.deducted with
  | none => exact hsend
  | some deducted =>
      have happend := EventLog.custody_append [Outbound.report deducted sh.token]
        [ChannelKeeper.sendReport (sh.inner message) sh.path] d
      rw [hsend, Outbound.custody_report, Int.add_zero] at happend
      exact happend

/-- A reversal gives out the unit. -/
theorem Reversal.custody_report (plan? : Option Plan) (sender : Address) (a : Amount) (d : Denom) :
    (report plan? sender a).custody d = -plan?.elim 0 fun p => (p.exchange a).released.worth d := by
  cases plan? with
  | none => rfl
  | some p =>
      obtain ⟨e, he, hkind, hamount, hdenom⟩ : ∃ e : Event, report (some p) sender a = [e] ∧
          e.kind = "convert_refund" ∧
          e.attribute "refund_amount" = some (toString (p.exchange a).released.amount) ∧
          e.attribute "refund_denom" = some (p.exchange a).released.denom.text :=
        ⟨_, rfl, rfl, rfl, rfl⟩
      rw [he]
      simp [EventLog.custody, EventLog.total_singleton, hkind, Event.stated_of_coin hamount hdenom]

/-- A conversion on the way in gives out the unit. -/
theorem TransferModule.custody_convertReport (plan? : Option Plan) (receiver : Address) (a : Amount)
    (d : Denom) :
    (convertReport plan? receiver a).custody d =
      -plan?.elim 0 fun p => (p.exchange a).released.worth d := by
  cases plan? with
  | none => rfl
  | some p =>
      obtain ⟨e, he, hkind, hamount, hdenom⟩ : ∃ e : Event,
          convertReport (some p) receiver a = [e] ∧ e.kind = "convert_received" ∧
          e.attribute "amount" = some (toString (p.exchange a).released.amount) ∧
          e.attribute "denom" = some (p.exchange a).released.denom.text :=
        ⟨_, rfl, rfl, rfl, rfl⟩
      rw [he]
      simp [EventLog.custody, EventLog.total_singleton, hkind, Event.stated_of_coin hamount hdenom]

theorem ChannelKeeper.custody_arrivalReport (k : ChannelKeeper) (packet : Packet) (path : String)
    (denom d : Denom) : (k.arrivalReport packet path denom).custody d = 0 := by
  apply EventLog.custody_of_other_kinds
  rw [arrivalReport, traceReport]
  split
  · simp
  · split
    · simp
    · simp

theorem Request.custody_closing (q : Request) (data : PacketData) (d : Denom) :
    (q.closing data).custody d = 0 := by
  apply EventLog.custody_of_other_kinds
  cases q with
  | acknowledge packet ack => simp [closing, TransferModule.acknowledgeReport]
  | timeout packet => simp [closing, TransferModule.timeoutReport]
  | openChannel channel remote => simp [closing]
  | transfer message => simp [closing]
  | receive packet => simp [closing]

/-! ## Accounts that are spared -/

namespace TransferModule

variable {m : TransferModule} {β : Type} [Ledger β] {s t : Stage ChannelKeeper β}
  {account : Address}

/-- **An account that a step spares is left as it was, unless it is that of the module: that one
changes by what the step reports.** -/
theorem balance_step [LawfulLedger β] {q : Request} {reply : Reply} (hstep : m.Step s q reply t)
    (hq : q.Spares account) (hk : s.keeper.Spares account) :
    ∃ log : EventLog, t.events = s.events ++ log ∧ ∀ d,
      (balance t.ledger account d : Int) =
        balance s.ledger account d + if account = custodian then log.custody d else 0 := by
  -- a step without postings and without reports of conversions
  have hidle : ∀ {log : EventLog}, (∀ d, log.custody d = 0) → ∀ d,
      (balance s.ledger account d : Int) =
        balance s.ledger account d + if account = custodian then log.custody d else 0 := by
    intro log hlog d
    rw [hlog, ite_self, Int.add_zero]
  cases hstep with
  | opened channel remote =>
      exact ⟨[], (List.append_nil _).symm, hidle fun _ => rfl⟩
  | @sent message sh _ hships hposts hkeeper hevents =>
      have hsender : account ≠ sh.sender :=
        (Address.ne_of_parse hships.admits.sender hq.1).symm
      have hescrow : account ≠ (Hop.mk message.sourcePort message.sourceChannel).escrow :=
        Ne.symm hq.2
      -- of a shipment only what was converted stays at an account that is spared
      refine ⟨_, hevents, fun d => ?_⟩
      rw [balance_of_posts hposts, Shipment.change_journal, Shipment.custody_report,
        Coin.share_of_ne hsender, Coin.share_of_ne hescrow, ite_self]
      cases sh.deducted with
      | none => simp
      | some deducted => simp [Coin.share_eq]
  | @credited packet data receiver coin _ hcredits hposts hkeeper hevents =>
      have hreceiver : account ≠ receiver :=
        (Address.ne_of_parse hcredits.receiver (hq.1 data hcredits.decoded)).symm
      have hescrow : account ≠ packet.destination.escrow := Ne.symm hq.2
      have hreport : EventLog.custody [ChannelKeeper.receiveReport data] = fun _ => 0 :=
        funext (EventLog.custody_of_other_kinds (by simp [ChannelKeeper.receiveReport]))
      refine ⟨_, hevents, fun d => ?_⟩
      rw [balance_of_posts hposts, creditJournal, Journal.change_append,
        ChannelKeeper.change_arrival, Coin.share_of_ne hreceiver, Coin.share_of_ne hescrow,
        ite_self, Plan.change_journalOf_of_ne hreceiver]
      rw [EventLog.custody_append, EventLog.custody_append, ChannelKeeper.custody_arrivalReport,
        hreport, custody_convertReport]
      simp
  | @rejected packet error _ hledger hkeeper hevents =>
      refine ⟨_, hevents, ?_⟩
      rw [hledger]
      exact hidle (EventLog.custody_of_other_kinds (by simp [failureReport]))
  | @refunded _ packet data sender denom _ hfails hrefunds hposts hkeeper hevents =>
      -- who is refunded is told by the packet, which was committed in an earlier step
      obtain ⟨hspares, hspared⟩ := hk packet hrefunds.committed
      have hescrow : account ≠ packet.source.escrow := Ne.symm hspared
      have hsender : account ≠ sender :=
        (Address.ne_of_parse hrefunds.sender (hspares data hrefunds.decoded)).symm
      refine ⟨_, hevents.trans (List.append_assoc _ _ _), fun d => ?_⟩
      rw [balance_of_posts hposts, refundPostings, Journal.change_append,
        ChannelKeeper.change_refundJournal, Coin.share_of_ne hsender, Coin.share_of_ne hescrow,
        ite_self, Plan.change_journalOf_of_ne hsender,
        EventLog.custody_append, Reversal.custody_report, Request.custody_closing]
      simp
  | acknowledged hcommitted hdecoded =>
      exact ⟨_, rfl, hidle (EventLog.custody_of_other_kinds (by simp [acknowledgeReport]))⟩
  | refused _ error =>
      exact ⟨[], (List.append_nil _).symm, hidle fun _ => rfl⟩

/-- A run leaves an account that it spares as it was, and that of the module changes by what the run
reports. -/
theorem balance_run [LawfulLedger β] (hk : s.keeper.Spares account) {qs : List Request}
    (hqs : ∀ q ∈ qs, q.Spares account) :
    ∃ log : EventLog, (m.run s qs).events = s.events ++ log ∧ ∀ d,
      (balance (m.run s qs).ledger account d : Int) =
        balance s.ledger account d + if account = custodian then log.custody d else 0 := by
  have hrun : (m.run s qs).keeper.Spares account ∧ ∃ log : EventLog,
      (m.run s qs).events = s.events ++ log ∧ ∀ d, (balance (m.run s qs).ledger account d : Int) =
        balance s.ledger account d + if account = custodian then log.custody d else 0 := by
    refine m.run_induction
      (P := fun t => t.keeper.Spares account ∧ ∃ log : EventLog, t.events = s.events ++ log ∧ ∀ d,
        (balance t.ledger account d : Int) =
          balance s.ledger account d + if account = custodian then log.custody d else 0)
      ⟨hk, [], (List.append_nil _).symm, fun d => ?_⟩ ?_
    · show (balance s.ledger account d : Int) = balance s.ledger account d + ite _ 0 0
      rw [ite_self, Int.add_zero]
    · rintro t ⟨hspares, past, hpast, hbalance⟩ q hq
      have hstep := m.step_serve t q
      obtain ⟨log, hlog, hstepped⟩ := balance_step hstep (hqs q hq) hspares
      refine ⟨(turn_of_step hstep).spares (hqs q hq) hspares, past ++ log, ?_, fun d => ?_⟩
      · rw [hlog, hpast, List.append_assoc]
      · rw [hstepped, hbalance, EventLog.custody_append]
        split
        · omega
        · omega
  exact hrun.2

end TransferModule

namespace Sample

/-- A bystander joins the sample stage. -/
def audience : Stage ChannelKeeper MemoryLedger :=
  { stage with ledger := stage.ledger.fund (user 3) ⟨xrowan, 9⟩ }

/-- The dealings, after which the message that is still out times out. -/
def course : List Request :=
  dealings ++ [.timeout { packet with sequence := 2 }]

/-- Only the first two users and the escrow account of the channel take part. -/
theorem spares_course {account : Address} (hsender : user 1 ≠ account)
    (hreceiver : user 2 ≠ account) (hescrow : hop.escrow ≠ account) :
    ∀ q ∈ course, q.Spares account := by
  have huser : ∀ n, user n ≠ account → Address.parse (userText n) ≠ .ok account := by
    intro n hne hparse
    exact hne (Except.ok.inj ((Address.parse_text (user n)).symm.trans hparse))
  have hmessage : (Request.transfer message).Spares account := ⟨huser 1 hsender, hescrow⟩
  have hreceive : (Request.receive homecoming).Spares account := by
    refine ⟨fun data hdata => ?_, hescrow⟩
    cases decodeData_homecoming.symm.trans hdata
    exact huser 2 hreceiver
  intro q hq
  simp only [course, dealings, List.mem_append, List.mem_cons, List.not_mem_nil, or_false] at hq
  rcases hq with (rfl | rfl | rfl | rfl | rfl) | rfl
  · trivial
  · exact hmessage
  · trivial
  · exact hmessage
  · exact hreceive
  · trivial

end Sample

namespace TransferModule

/-- **The log reconciles with the account of the module.** In a run from a fresh keeper in which
nobody acts for the account, it gains of every denomination what the conversions on the way out say
was sent, less what the reversals say was refunded and what the conversions on the way in say was
given. -/
theorem log_reconciles {β : Type} [Ledger β] [LawfulLedger β] (m : TransferModule)
    (start : Stage ChannelKeeper β) (hfresh : start.keeper.Fresh) (qs : List Request)
    (hqs : ∀ q ∈ qs, q.Spares custodian) :
    ∃ log : EventLog, (m.run start qs).events = start.events ++ log ∧ ∀ o,
      (balance (m.run start qs).ledger custodian o : Int) - balance start.ledger custodian o =
        log.total "convert_transfer" "sent_amount" "sent_denom" o -
          log.total "convert_refund" "refund_amount" "refund_denom" o -
            log.total "convert_received" "amount" "denom" o := by
  obtain ⟨log, hlog, hbalance⟩ :=
    balance_run (m := m) (ChannelKeeper.spares_of_fresh hfresh custodian) hqs
  refine ⟨log, hlog, fun o => ?_⟩
  rw [hbalance, if_pos rfl, EventLog.custody]
  omega

/-- Of twenty-four that were sent, twelve were refunded and five came home: seven are still out. -/
theorem log_reconciles_sample :
    (balance (Sample.desk.run Sample.stage Sample.course).ledger custodian Sample.rowan : Int) -
        balance Sample.stage.ledger custodian Sample.rowan =
      2400000000 - 1200000000 - 500000000 := by
  have hfresh : Sample.stage.keeper.Fresh := ⟨rfl, rfl, rfl, rfl⟩
  obtain ⟨log, hlog, hall⟩ := log_reconciles Sample.desk Sample.stage hfresh Sample.course
    (Sample.spares_course (by decide +kernel) (by decide +kernel) (by decide +kernel))
  have hevents : log = (Sample.desk.run Sample.stage Sample.course).events := hlog.symm
  obtain ⟨hsent, hrefunded, hreceived⟩ :
      log.total "convert_transfer" "sent_amount" "sent_denom" Sample.rowan = 2400000000 ∧
        log.total "convert_refund" "refund_amount" "refund_denom" Sample.rowan = 1200000000 ∧
          log.total "convert_received" "amount" "denom" Sample.rowan = 500000000 := by
    rw [hevents]
    decide +kernel
  rw [hall, hsent, hrefunded, hreceived]

/-- **Bystanders are untouched.** In a run from a fresh keeper, an account that is not that of the
module, sends no message, is named as the receiver of no packet and is no escrow account of a
channel that one of them goes over has of every denomination what it had before. -/
theorem bystanders_untouched {β : Type} [Ledger β] [LawfulLedger β] (m : TransferModule)
    (start : Stage ChannelKeeper β) (hfresh : start.keeper.Fresh) (account : Address)
    (haccount : account ≠ custodian) (qs : List Request) (hqs : ∀ q ∈ qs, q.Spares account)
    (d : Denom) :
    balance (m.run start qs).ledger account d = balance start.ledger account d := by
  obtain ⟨_, -, hbalance⟩ :=
    balance_run (m := m) (ChannelKeeper.spares_of_fresh hfresh account) hqs
  have hd := hbalance d
  rw [if_neg haccount, Int.add_zero] at hd
  exact Int.ofNat.inj hd

/-- The third user keeps what it has of the counterpart while others send it, get it back and have
it exchanged. -/
theorem bystanders_untouched_sample :
    balance (Sample.desk.run Sample.audience Sample.course).ledger (Sample.user 3) Sample.xrowan =
      9 := by
  have hfresh : Sample.audience.keeper.Fresh := ⟨rfl, rfl, rfl, rfl⟩
  rw [bystanders_untouched Sample.desk Sample.audience hfresh (Sample.user 3) (by decide +kernel)
    Sample.course (Sample.spares_course (by decide +kernel) (by decide +kernel)
      (by decide +kernel))]
  decide +kernel

end TransferModule

end Interchain
