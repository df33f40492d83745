import Interchain.Proofs.Transfer.Run

/-!
# Packets that are rejected

A packet that cannot be credited leaves the ledger as it was and is reported, but the keeper may
have learned the trace of its token before the packet failed (`Rejects`). So a keeper knows a
voucher after a run if some packet introduced it, whether that one was credited or not
(`contains_traces_run`), and the first packet that is credited with a voucher reports the trace
only if no packet that was rejected had introduced it (`rejection_leaves_trace`).
-/

set_option autoImplicit false

namespace Interchain

/-- A keeper that learned a trace knows its voucher and what it knew before. -/
theorem ChannelKeeper.contains_learn {k : ChannelKeeper} {denom d : Denom} {trace : Trace} :
    (k.learn denom trace).traces.contains d = true ↔
      k.traces.contains d = true ∨ d = denom := by
  rw [learn]
  by_cases hknown : k.traces.contains denom
  · rw [if_pos hknown]
    constructor
    · exact .inl
    · rintro (h | rfl)
      · exact h
      · exact hknown
  · rw [if_neg hknown, FiniteMap.contains, FiniteMap.get?_insert, FiniteMap.contains]
    by_cases hd : d = denom
    · simp [hd]
    · simp [hd]

namespace TransferModule

/-- What a packet leaves behind that is rejected for a cause. -/
structure Rejects {β : Type} (m : TransferModule) (s : Stage ChannelKeeper β) (packet : Packet)
    (cause : TransferError) (t : Stage ChannelKeeper β) : Prop where
  ledger : t.ledger = s.ledger
  events : t.events = s.events ++ [failureReport cause]
  keeper : m.Learns s.keeper packet t.keeper

/-- Whether a packet that was served introduced a voucher. -/
def Served.Introduced {β : Type} (m : TransferModule) (d : Denom) (e : Served β) : Prop :=
  ∃ packet data, e.request = .receive packet ∧ m.Introduces e.before.keeper packet data ∧
    d = ChannelKeeper.voucherOf packet data.denom

variable {β : Type} [Ledger β] {m : TransferModule} {s t : Stage ChannelKeeper β} {d : Denom}

/-- **What a rejected packet leaves behind.** -/
theorem rejects_of_onPacket {packet : Packet} {reason : String}
    (h : m.onPacket packet s = .ok (.error reason) t) :
    ∃ cause, reason = cause.message ∧ m.Rejects s packet cause t := by
  rcases onPacket_eq_ok_iff.1 h with ⟨credited, -, hack⟩ | ⟨cause, u, hreceive, hack, rfl⟩
  · cases hack
  · cases hack
    obtain ⟨hledger, hevents, hlearns⟩ := receive_eq_error hreceive
    exact ⟨cause, rfl, hledger, by rw [hevents], hlearns⟩

/-- Credited or not, a packet teaches the keeper the trace that it introduces. -/
theorem learns_of_onPacket {packet : Packet} {ack : Acknowledgement}
    (h : m.onPacket packet s = .ok ack t) : m.Learns s.keeper packet t.keeper := by
  rcases onPacket_eq_ok_iff.1 h with ⟨credited, hreceive, -⟩ | ⟨cause, u, hreceive, -, rfl⟩
  · exact learns_of_receive_ok hreceive
  · exact (receive_eq_error hreceive).2.2

/-! ## Known vouchers -/

omit [Ledger β] in
/-- Only packets that come in touch the known traces. -/
theorem Turn.traces {k l : ChannelKeeper} {q : Request} (h : m.Turn k q l)
    (hq : ∀ packet, q ≠ .receive packet) : l.traces = k.traces := by
  cases h with
  | opened channel remote => rfl
  | committed hships => rfl
  | arrived hdecoded hdenom => exact (hq _ rfl).elim
  | cleared hcommitted => rfl
  | kept => rfl

/-- The vouchers that are known after a packet came in. -/
theorem contains_traces_onPacket {packet : Packet} {ack : Acknowledgement}
    (h : m.onPacket packet s = .ok ack t) :
    t.keeper.traces.contains d = true ↔ s.keeper.traces.contains d = true ∨
      ∃ data, m.Introduces s.keeper packet data ∧
        d = ChannelKeeper.voucherOf packet data.denom := by
  have hlearns := learns_of_onPacket h
  by_cases hintro : ∃ data, m.Introduces s.keeper packet data
  · obtain ⟨data, hintro⟩ := hintro
    rw [hlearns.introduced data hintro, ChannelKeeper.contains_learn]
    constructor
    · rintro (hknown | rfl)
      · exact .inl hknown
      · exact .inr ⟨data, hintro, rfl⟩
    · rintro (hknown | ⟨data', hintro', rfl⟩)
      · exact .inl hknown
      · -- a packet says one thing only
        cases Except.ok.inj (hintro.decoded.symm.trans hintro'.decoded)
        exact .inr rfl
  · rw [hlearns.kept fun data hdata => hintro ⟨data, hdata⟩]
    constructor
    · exact .inl
    · rintro (hknown | ⟨data, hdata, -⟩)
      · exact hknown
      · exact (hintro ⟨data, hdata⟩).elim

/-- The traces that a packet reports when it is credited with a voucher. -/
theorem reports_of_credited {packet : Packet} {data : PacketData} {reply : Reply}
    (hstep : m.Step s (.receive packet) reply t) (hreply : reply = .received .success)
    (hdata : packet.decodeData = .ok data)
    (hforeign : receiverIsSource packet.source data.denom = false) :
    ∃ report, t.events = s.events ++ report ∧
      EventLog.ofKind report "denomination_trace" =
        s.keeper.traceReport (ChannelKeeper.voucherOf packet data.denom)
          (ChannelKeeper.arrivalTrace packet data.denom) := by
  cases hstep with
  | @credited _ data' receiver coin _ hcredits hposts hkeeper hevents =>
      cases Except.ok.inj (hdata.symm.trans hcredits.decoded)
      have hheld := Except.ok.inj
        (hcredits.denom.symm.trans (ChannelKeeper.localDenom_arrivalTrace hforeign))
      refine ⟨_, hevents, ?_⟩
      -- no other report of the packet is about a trace
      rw [ChannelKeeper.arrivalReport, hforeign, if_neg Bool.false_ne_true, hheld,
        EventLog.ofKind, List.filter_append, List.filter_append]
      have hcredit : ([ChannelKeeper.receiveReport data].filter
          fun e => e.kind = "denomination_trace") = [] := rfl
      have hconvert : ((convertReport (Plan.resolve m.registry
          (ChannelKeeper.voucherOf packet data.denom)) receiver coin.amount).filter
          fun e => e.kind = "denomination_trace") = [] := by
        cases Plan.resolve m.registry (ChannelKeeper.voucherOf packet data.denom) with
        | none => rfl
        | some p => rfl
      rw [hcredit, hconvert, List.append_nil, List.append_nil, ChannelKeeper.traceReport]
      split
      · rfl
      · rfl
  | rejected hledger hkeeper hevents => cases hreply
  | refunded hfails hrefunds hposts hkeeper hevents => cases hfails
  | refused _ e => cases hreply

variable [LawfulLedger β]

/-- **A request makes known the voucher that it introduces.** -/
theorem contains_traces_serve (s : Stage ChannelKeeper β) (q : Request) :
    (m.serve s q).2.keeper.traces.contains d = true ↔
      s.keeper.traces.contains d = true ∨ (m.record s q).Introduced m d := by
  by_cases hq : ∃ packet, q = .receive packet
  · obtain ⟨packet, rfl⟩ := hq
    obtain ⟨ack, t, h⟩ := exists_onPacket m packet s
    rw [serve_of_onPacket h, contains_traces_onPacket h]
    constructor
    · rintro (hknown | ⟨data, hintro, hd⟩)
      · exact .inl hknown
      · exact .inr ⟨packet, data, rfl, hintro, hd⟩
    · rintro (hknown | ⟨_, data, hrequest, hintro, hd⟩)
      · exact .inl hknown
      · cases hrequest
        exact .inr ⟨data, hintro, hd⟩
  · have hturn := turn_of_step (m.step_serve s q)
    rw [hturn.traces fun packet hreceive => hq ⟨packet, hreceive⟩]
    constructor
    · exact .inl
    · rintro (hknown | ⟨packet, data, hrequest, -⟩)
      · exact hknown
      · exact (hq ⟨packet, hrequest⟩).elim

/-- **The vouchers that are known after a run are those that its packets introduced.** -/
theorem contains_traces_run (s : Stage ChannelKeeper β) (qs : List Request) :
    (m.run s qs).keeper.traces.contains d = true ↔
      s.keeper.traces.contains d = true ∨ ∃ e ∈ m.history s qs, e.Introduced m d := by
  induction qs generalizing s with
  | nil => simp [history]
  | cons q qs ih =>
      -- the first request makes its voucher known to the rest of the run
      show (m.run (m.serve s q).2 qs).keeper.traces.contains d = true ↔ _
      rw [ih, contains_traces_serve, or_assoc]
      simp only [history, List.mem_cons, exists_eq_or_imp]

/-- **A rejected packet leaves its trace behind.** A packet that cannot be credited leaves the
ledger as it was and is reported once, but the keeper learns the trace that it introduces. So in a
run from a fresh keeper, a packet that is credited with a voucher reports its trace exactly if no
packet before it introduced the voucher, be it one that was credited or one that was rejected. -/
theorem rejection_leaves_trace (m : TransferModule) (s : Stage ChannelKeeper β) :
    (∀ packet reason t, m.onPacket packet s = .ok (.error reason) t →
      ∃ cause, reason = cause.message ∧ m.Rejects s packet cause t) ∧
    (s.keeper.Fresh → ∀ qs past e future, m.history s qs = past ++ e :: future →
      ∀ packet data, e.request = .receive packet → e.reply = .received .success →
        packet.decodeData = .ok data → receiverIsSource packet.source data.denom = false →
        let d := ChannelKeeper.voucherOf packet data.denom
        ∃ report, e.after.events = e.before.events ++ report ∧
          ((∃ f ∈ past, f.Introduced m d) → EventLog.ofKind report "denomination_trace" = []) ∧
          ((∀ f ∈ past, ¬ f.Introduced m d) → EventLog.ofKind report "denomination_trace" =
            [⟨"denomination_trace", [("trace_hash", d.text),
              ("denom", packet.destination.extend data.denom)]⟩])) := by
  refine ⟨fun packet reason t h => rejects_of_onPacket h, ?_⟩
  intro hfresh qs past e future hsplit packet data hrequest hreply hdata hforeign
  obtain ⟨earlier, q, later, rfl, rfl, rfl⟩ := m.history_eq_append_cons hsplit
  obtain rfl : q = .receive packet := hrequest
  have hstep := m.step_serve (m.run s earlier) (.receive packet)
  obtain ⟨report, hevents, hreports⟩ := reports_of_credited hstep hreply hdata hforeign
  refine ⟨report, hevents, ?_⟩
  -- a fresh keeper knows no voucher, so what is known was introduced in the run
  have hknown := contains_traces_run (m := m) (d := ChannelKeeper.voucherOf packet data.denom)
    s earlier
  have hunknown : s.keeper.traces.contains (ChannelKeeper.voucherOf packet data.denom) = false := by
    rw [hfresh.traces]
    rfl
  rw [hunknown] at hknown
  simp only [Bool.false_eq_true, false_or] at hknown
  rw [hreports, ChannelKeeper.traceReport]
  refine ⟨fun hintro => ?_, fun hno => ?_⟩
  · rw [if_pos (hknown.2 hintro)]
  · rw [if_neg fun h => ?_]
    · rw [ChannelKeeper.arrivalTrace, hforeign, if_neg Bool.false_ne_true, Trace.fullPath_addHop,
        Trace.fullPath_parse]
    · obtain ⟨f, hf, hintro⟩ := hknown.1 h
      exact hno f hf hintro

end TransferModule

/-! ## A till to try receipts at -/

namespace Sample

/-- The voucher that `uatom` from the other chain is held under. -/
def atom : Denom :=
  Trace.voucher "transfer/channel-0/uatom"

/-- The voucher has six decimals, and the unit that it stands for has eighteen. -/
def till : TransferModule where
  registry := ⟨[({ denom := "catom", decimals := 18, counterparty := atom.text } : Entry),
    { denom := atom.text, baseDenom := "uatom", decimals := 6, unit := "catom" }].foldl
      (fun m e => m.insert e.denom e) ∅⟩

/-- A fresh keeper, and a ledger on which the module has the unit for ten of the voucher. -/
def float : Stage ChannelKeeper MemoryLedger where
  keeper := { port := .transfer }
  ledger := ((∅ : MemoryLedger).registerModule transferModule ⟨true, true⟩).fund custodian
    ⟨⟨"catom", by decide⟩, 10000000000000⟩
  events := []

def depositData (a : Amount) : PacketData :=
  ⟨"uatom", a, userText 2, userText 1⟩

/-- The packet that brings some `uatom` in. -/
def deposit (a : Amount) : Packet where
  sequence := 1
  sourcePort := .transfer
  sourceChannel := channel
  destinationPort := .transfer
  destinationChannel := channel
  data := (depositData a).toBytes
  timeoutHeight := .zero
  timeoutTimestamp := 0

theorem decodeData_deposit (a : Amount) : (deposit a).decodeData = .ok (depositData a) := by
  have hread : PacketData.ofBytes? (deposit a).data = some (depositData a) :=
    PacketData.ofBytes?_toBytes _
  rw [Packet.decodeData, hread]

theorem introduces_deposit (s : Stage ChannelKeeper MemoryLedger) (a : Amount) (ha : a ≠ 0)
    (hs : s.keeper.receiveEnabled = true) :
    till.Introduces s.keeper (deposit a) (depositData a) where
  enabled := rfl
  decoded := decodeData_deposit a
  traced := {
    enabled := hs
    positive := ha
    receiver := ⟨user 1, Address.parse_text (user 1)⟩
    foreign := by
      show receiverIsSource ⟨.transfer, channel⟩ "uatom" = false
      decide +kernel }

/-- Why more is not credited than the till has the unit for. -/
def shortage (a : Amount) : TransferError :=
  .ledger (.insufficientFunds custodian ⟨⟨"catom", by decide⟩, a * 1000000000000⟩ 10000000000000)

/-- Of two deposits the first is too large, and the second is credited without a report of the
voucher. -/
theorem exists_deposits :
    ∃ s t, till.onPacket (deposit 100) float = .ok (.error (shortage 100).message) s ∧
      till.onPacket (deposit 5) s = .ok .success t ∧ s.keeper ≠ float.keeper ∧
      EventLog.ofKind t.events "denomination_trace" = [] := by
  have hserved :
      let rejected := till.serve float (.receive (deposit 100))
      let credited := till.serve rejected.2 (.receive (deposit 5))
      rejected.1 = .received (.error (shortage 100).message) ∧
        credited.1 = .received .success ∧ rejected.2.keeper ≠ float.keeper ∧
        EventLog.ofKind credited.2.events "denomination_trace" = [] := by
    decide +kernel
  obtain ⟨first, s, h⟩ := TransferModule.exists_onPacket till (deposit 100) float
  obtain ⟨second, t, h'⟩ := TransferModule.exists_onPacket till (deposit 5) s
  simp only [TransferModule.serve_of_onPacket h, TransferModule.serve_of_onPacket h'] at hserved
  obtain ⟨hfirst, hsecond, hkeeper, hevents⟩ := hserved
  cases hfirst
  cases hsecond
  exact ⟨s, t, h, h', hkeeper, hevents⟩

end Sample

namespace TransferModule

/-- A deposit that is rejected changes the keeper, and the first deposit that is credited does not
report its voucher. -/
theorem rejected_deposit_unreported :
    ∃ packet packet' reason s t,
      Sample.till.onPacket packet Sample.float = .ok (.error reason) s ∧
        s.keeper ≠ Sample.float.keeper ∧ Sample.till.onPacket packet' s = .ok .success t ∧
        EventLog.ofKind t.events "denomination_trace" = [] := by
  obtain ⟨s, t, h, h', hkeeper, hevents⟩ := Sample.exists_deposits
  exact ⟨_, _, _, s, t, h, hkeeper, h', hevents⟩

/-- The deposit that is too large introduces its voucher, so that the one after it is credited
without a report of the voucher. -/
theorem rejection_leaves_trace_sample :
    ∃ reason s t,
      Sample.till.onPacket (Sample.deposit 100) Sample.float = .ok (.error reason) s ∧
        (∃ cause, reason = cause.message ∧
          Sample.till.Rejects Sample.float (Sample.deposit 100) cause s) ∧
        Sample.till.onPacket (Sample.deposit 5) s = .ok .success t ∧
        ∃ report, t.events = s.events ++ report ∧
          EventLog.ofKind report "denomination_trace" = [] := by
  obtain ⟨hrejected, hcredited⟩ := rejection_leaves_trace Sample.till Sample.float
  obtain ⟨s, t, h, h', -, -⟩ := Sample.exists_deposits
  have hserve := serve_of_onPacket h
  have hserve' := serve_of_onPacket h'
  -- the second deposit is served after the first, which introduced the voucher
  have hhistory : Sample.till.history Sample.float
      [.receive (Sample.deposit 100), .receive (Sample.deposit 5)] =
        [Sample.till.record Sample.float (.receive (Sample.deposit 100))] ++
          Sample.till.record s (.receive (Sample.deposit 5)) :: [] := by
    rw [history, history, history, hserve]
    rfl
  obtain ⟨report, hevents, hsilent, -⟩ := hcredited ⟨rfl, rfl, rfl, rfl⟩ _ _ _ _ hhistory
    (Sample.deposit 5) (Sample.depositData 5) rfl (congrArg Prod.fst hserve')
    (Sample.decodeData_deposit 5) (by decide +kernel)
  refine ⟨_, s, t, h, hrejected _ _ s h, h', report, ?_, hsilent ?_⟩
  · have hafter : (Sample.till.record s (.receive (Sample.deposit 5))).after = t :=
      congrArg Prod.snd hserve'
    rw [hafter] at hevents
    exact hevents
  · exact ⟨_, List.mem_singleton_self _, Sample.deposit 100, Sample.depositData 100, rfl,
      Sample.introduces_deposit Sample.float 100 (by decide) rfl, rfl⟩

end TransferModule

end Interchain
