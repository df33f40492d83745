import Interchain.Proofs.Transfer.Counterparts
import Interchain.Proofs.Transfer.Run
import Interchain.Proofs.Transport.Reachable

/-!
# Which failed packets are recognized

A conversion on the way out follows the counterpart that the entry of a token names. The way back
follows the unit that the entry of the counterpart names, and for a voucher that returns to where it
came from the base of its trace too. The two agree exactly if the counterpart points back
(`Reversal.exists_recognize_iff`), so a converted transfer is recognized when it fails if and only
if its counterpart does (`recognized_iff_points_back`).
-/

set_option autoImplicit false

namespace Interchain

open Ledger

/-! ## Reachable keepers of modules -/

namespace TransferModule

/-- A request takes a reachable keeper to a reachable one. -/
theorem Turn.reachable {m : TransferModule} {k l : ChannelKeeper} {q : Request}
    (h : m.Turn k q l) (hk : k.Reachable) : l.Reachable := by
  cases h with
  | opened channel remote => exact hk.opened channel remote
  | committed hships => exact hk.sent hships.admits
  | arrived hdecoded hheld => exact hk.arrived hheld
  | cleared hcommitted => exact hk.cleared _
  | kept => exact hk

/-- Runs lead to reachable keepers only. -/
theorem reachable_run {β : Type} [Ledger β] [LawfulLedger β] {m : TransferModule}
    {s : Stage ChannelKeeper β} (hs : s.keeper.Reachable) (qs : List Request) :
    (m.run s qs).keeper.Reachable :=
  m.run_induction hs fun t ht q _ => (turn_of_step (m.step_serve t q)).reachable ht

end TransferModule

/-! ## Recognition -/

namespace Reversal

variable {r : Registry} {packet : Packet} {data : PacketData} {p : Plan} {o d : Denom}

/-- A plan is made for a packet exactly if the packet is recognized, in whatever shape. -/
theorem plan?_eq_some_iff :
    plan? r packet data = some p ↔ ∃ shape, recognize r packet data = some (shape, p) := by
  rw [plan?, Option.map_eq_some_iff]
  constructor
  · rintro ⟨⟨shape, q⟩, h, rfl⟩
    exact ⟨shape, h⟩
  · rintro ⟨shape, h⟩
    exact ⟨(shape, p), h, rfl⟩

/-- A voucher that returns is recognized only under the base that it is registered with. -/
theorem baseDenom_of_plan? (hdenom : (Trace.parse data.denom).localDenom = .ok d)
    (h : plan? r packet data = some p) (hside : senderIsSource packet.source data.denom = false) :
    (r.entry d.text).baseDenom = (Trace.parse data.denom).base := by
  rw [plan?, recognize] at h
  simp only [hdenom, hside, Bool.false_eq_true, if_false] at h
  by_cases hbase : (r.entry d.text).baseDenom = (Trace.parse data.denom).base
  · exact hbase
  · simp [hbase] at h

/-- **A converted token is recognized exactly if its counterpart points back.** The entry of the
counterpart has to name the token as its unit and, for a voucher that returns, the base of the
path. -/
theorem exists_recognize_iff (hr : r.Valid) (hconverts : Outbound.Converts r (r.entry o.text))
    (hcounterparty : (r.entry o.text).counterparty = d.text)
    (hdenom : (Trace.parse data.denom).localDenom = .ok d) :
    (∃ shape, recognize r packet data =
        some (shape, ⟨d, o, Outbound.excess r (r.entry o.text)⟩)) ↔
      (r.entry d.text).unit = o.text ∧
        (senderIsSource packet.source data.denom = false →
          (r.entry d.text).baseDenom = (Trace.parse data.denom).base) := by
  rw [← plan?_eq_some_iff]
  constructor
  · intro h
    refine ⟨?_, baseDenom_of_plan? hdenom h⟩
    exact (Counterparts.of_resolve hr (resolve_of_plan? hdenom h)).unit
  · rintro ⟨hunit, hbase⟩
    have hlower := hconverts.lower
    rw [hcounterparty] at hlower
    exact Counterparts.plan?_eq ⟨hcounterparty, hunit, hlower⟩ hr hdenom hbase

end Reversal

namespace Outbound

variable {β : Type} [Ledger β] [LawfulLedger β] {r : Registry} {s t : Stage ChannelKeeper β}
  {message : TransferMessage} {response : TransferResponse}

/-- What a transfer sends outside of any module is a shipment too. -/
theorem exists_shipment_of_transfer {exportOnly : Bool}
    (h : transfer r exportOnly message s = .ok response t) :
    ∃ sh : Shipment, sh.Carries r (r.entry message.token.denom.text) message.token ∧
      s.keeper.Admits (sh.inner message) sh.remote sh.sender sh.path ∧
      response = ⟨s.keeper.sequenceOf message.sourceChannel⟩ ∧
      t.keeper = s.keeper.commit (sh.packet s.keeper message) := by
  -- a module that is bound to the port of the message has no more to say
  let m : TransferModule :=
    { registry := r, params := { port := message.sourcePort, requireExport := exportOnly } }
  have hmodule : m.transfer message s = .ok response t := by
    rw [TransferModule.transfer]
    simpa [m] using h
  obtain ⟨sh, hships, -, hresponse, hkeeper, -⟩ := TransferModule.transfer_eq_ok hmodule
  exact ⟨sh, hships.carries, hships.admits, hresponse, hkeeper⟩

/-- **Which converted transfers are recognized when they fail.** Let a registry that was made of a
list of entries say that a token leaves as its counterpart, and let the keeper be reachable. If a
transfer of the token succeeds, a packet is committed for it. If the counterpart reads as a
denomination of this chain, as vouchers do, the plan that undoes the conversion is recognized
from this packet and its data exactly if the entry of the counterpart names the token as its
unit and, in case the packet returns a voucher, the base of the path. -/
theorem recognized_iff_points_back {es : List Entry} (hr : Registry.ofEntries es = .ok r)
    (hk : s.keeper.Reachable) (hconverts : Converts r (r.entry message.token.denom.text))
    {exportOnly : Bool} (htransfer : transfer r exportOnly message s = .ok response t) :
    ∃ packet data d,
      t.keeper.commitments.get? ⟨message.sourceChannel, response.sequence⟩ = some packet ∧
        packet.decodeData = .ok data ∧
        d.text = (r.entry message.token.denom.text).counterparty ∧
        (d.isPlain = true →
          ((∃ shape, Reversal.recognize r packet data = some (shape,
              ⟨d, message.token.denom, excess r (r.entry message.token.denom.text)⟩)) ↔
            (r.entry d.text).unit = message.token.denom.text ∧
              (senderIsSource packet.source data.denom = false →
                (r.entry d.text).baseDenom = (Trace.parse data.denom).base))) := by
  have hvalid := Registry.valid_ofEntries hr
  obtain ⟨sh, hcarries, hadmits, rfl, hkeeper⟩ := exists_shipment_of_transfer htransfer
  obtain ⟨hcounterpart, -, -⟩ := hcarries.of_converts hconverts
  have htext : sh.token.denom.text = (r.entry message.token.denom.text).counterparty := by
    rw [Denom.text_of_parse hcounterpart, hvalid.denom_entry hconverts.registered]
  refine ⟨sh.packet s.keeper message, sh.data message, sh.token.denom, ?_,
    sh.decodeData_packet _ _, htext, fun hplain => ?_⟩
  · -- the packet was committed under its number
    rw [hkeeper]
    exact (FiniteMap.get?_insert _ _ _ _).trans (if_pos rfl)
  · -- the path in the packet leads back to the counterpart
    have hdenom := (ChannelKeeper.localDenom_of_fullPath_iff hk.held hadmits.path).2 hplain
    exact Reversal.exists_recognize_iff hvalid hconverts htext.symm hdenom

end Outbound

namespace Sample

/-- The sample entries, with the pointers back from counterparts to their units left out. -/
def oneWayEntries : List Entry :=
  entries.map fun e => { e with unit := "" }

/-- The registry of the entries without pointers back. -/
def oneWay : Registry :=
  ⟨oneWayEntries.foldl (fun m e => m.insert e.denom e) ∅⟩

/-- The sample stage with a channel. -/
def ready : Stage ChannelKeeper MemoryLedger :=
  desk.run stage [opening]

theorem reachable_ready : ready.keeper.Reachable :=
  TransferModule.reachable_run (s := stage) (.new .transfer) [opening]

end Sample

namespace Outbound

/-- Without the pointer back a converted transfer is sent but not recognized when it fails. -/
theorem one_way_unrecognized :
    ∃ t packet data,
      Registry.ofEntries Sample.oneWayEntries = .ok Sample.oneWay ∧
        Sample.ready.keeper.Reachable ∧
        Converts Sample.oneWay (Sample.oneWay.entry Sample.message.token.denom.text) ∧
        transfer Sample.oneWay false Sample.message Sample.ready = .ok ⟨1⟩ t ∧
        t.keeper.commitments.get? ⟨Sample.message.sourceChannel, 1⟩ = some packet ∧
        packet.decodeData = .ok data ∧ Reversal.recognize Sample.oneWay packet data = none := by
  have hconverts : Converts Sample.oneWay
      (Sample.oneWay.entry Sample.message.token.denom.text) :=
    ⟨by decide, by decide, by decide⟩
  obtain ⟨response, t, htransfer, hresult⟩ := Action.yields_iff.1
    (show Action.yields (transfer Sample.oneWay false Sample.message) Sample.ready
      (fun response t => decide (response = ⟨1⟩ ∧
        t.keeper.commitments.get? ⟨Sample.message.sourceChannel, 1⟩ = some Sample.packet)) = true
      by decide +kernel)
  obtain ⟨rfl, hcommitted⟩ := of_decide_eq_true hresult
  exact ⟨t, Sample.packet, Sample.data, rfl, Sample.reachable_ready, hconverts, htransfer,
    hcommitted, Sample.decodeData_packet, by decide +kernel⟩

/-- The sample message is recognized when it fails, since `xrowan` points back to `rowan`. -/
theorem recognized_iff_points_back_sample :
    ∃ t, transfer Sample.registry false Sample.message Sample.ready = .ok ⟨1⟩ t ∧
      t.keeper.commitments.get? ⟨Sample.message.sourceChannel, 1⟩ = some Sample.packet ∧
      ∃ shape, Reversal.recognize Sample.registry Sample.packet Sample.data =
        some (shape, ⟨Sample.xrowan, Sample.rowan, 8⟩) := by
  have hconverts : Converts Sample.registry
      (Sample.registry.entry Sample.message.token.denom.text) :=
    ⟨by decide, by decide, by decide⟩
  obtain ⟨response, t, htransfer, hresult⟩ := Action.yields_iff.1
    (show Action.yields (transfer Sample.registry false Sample.message) Sample.ready
      (fun response t => decide (response = ⟨1⟩ ∧
        t.keeper.commitments.get? ⟨Sample.message.sourceChannel, 1⟩ = some Sample.packet)) = true
      by decide +kernel)
  obtain ⟨rfl, hpacket⟩ := of_decide_eq_true hresult
  obtain ⟨packet, data, d, hcommitted, hdata, htext, hrecognized⟩ :=
    recognized_iff_points_back Sample.ofEntries_entries Sample.reachable_ready hconverts htransfer
  obtain rfl : packet = Sample.packet := Option.some.inj (hcommitted.symm.trans hpacket)
  obtain rfl : data = Sample.data := Except.ok.inj (hdata.symm.trans Sample.decodeData_packet)
  obtain rfl : d = Sample.xrowan := Validated.ext htext
  refine ⟨t, htransfer, hpacket, (hrecognized (by decide)).2 ⟨by decide, fun _ => ?_⟩⟩
  decide +kernel

end Outbound

end Interchain
