import Interchain.Proofs.Registry
import Interchain.Proofs.Trace
import Interchain.Proofs.Transfer.Conversion

/-!
# Units and their counterparts

A denomination is the counterpart of another if each entry names the other and the counterpart
has less decimals. Such a pair converts both ways: the unit leaves as its counterpart
(`Counterparts.converts`), the plan for the counterpart leads back to the unit
(`Counterparts.resolve`), and a packet that carries the counterpart is recognized when it fails
(`Counterparts.plan?_eq`).
-/

set_option autoImplicit false

namespace Interchain

/-- Whether `t` is the counterpart of `o` and `o` the unit of `t`. -/
structure Counterparts (r : Registry) (o t : Denom) : Prop where
  counterparty : (r.entry o.text).counterparty = t.text
  unit : (r.entry t.text).unit = o.text
  lower : (r.entry t.text).decimals < (r.entry o.text).decimals

namespace Counterparts

variable {r : Registry} {o t : Denom}

theorem isEmpty_counterpart (h : Counterparts r o t) (hr : r.Valid) :
    (r.entry t.text).isEmpty = false := by
  apply hr.isEmpty_entry
  intro hempty
  have hunit := h.unit
  rw [hempty] at hunit
  have hne := Denom.isEmpty_text o
  rw [← hunit] at hne
  exact absurd hne (by decide)

theorem isEmpty_unit (h : Counterparts r o t) (hr : r.Valid) :
    (r.entry o.text).isEmpty = false := by
  apply hr.isEmpty_entry
  intro hempty
  have hcounterparty := h.counterparty
  rw [hempty] at hcounterparty
  have hne := Denom.isEmpty_text t
  rw [← hcounterparty] at hne
  exact absurd hne (by decide)

/-- The unit leaves as its counterpart. -/
theorem converts (h : Counterparts r o t) (hr : r.Valid) :
    Outbound.Converts r (r.entry o.text) where
  named := by
    rw [Entry.hasCounterparty, h.counterparty, Denom.isEmpty_text]
    rfl
  registered := by
    rw [h.counterparty]
    exact h.isEmpty_counterpart hr
  lower := by
    rw [h.counterparty]
    exact h.lower

/-- The denomination that the unit leaves as. -/
theorem parse_counterpart (h : Counterparts r o t) (hr : r.Valid) :
    Denom.parse (r.entry (r.entry o.text).counterparty).denom = .ok t := by
  rw [h.counterparty, hr.denom_entry (h.isEmpty_counterpart hr), Denom.parse_text]

/-- **The plan for a counterpart leads back to its unit.** -/
theorem resolve (h : Counterparts r o t) (hr : r.Valid) :
    Plan.resolve r t = some ⟨t, o, Outbound.excess r (r.entry o.text)⟩ := by
  have ht := h.isEmpty_counterpart hr
  have ho := h.isEmpty_unit hr
  have hunit : (r.entry t.text).hasUnit = true := by
    rw [Entry.hasUnit, h.unit, Denom.isEmpty_text]
    rfl
  have hback : (r.entry o.text).counterparty = (r.entry t.text).denom := by
    rw [h.counterparty, hr.denom_entry ht]
  have hlower : ¬ (r.entry o.text).decimals ≤ (r.entry t.text).decimals :=
    UInt32.not_le.2 h.lower
  rw [Plan.resolve]
  -- every check on the way to the plan is met
  simp only [ht, hunit, h.unit, ho, hback, hr.denom_entry ho, Denom.parse_text]
  simp [hlower, Outbound.excess, h.counterparty]

/-- There is a plan for a counterpart only. -/
theorem of_resolve (hr : r.Valid) {p : Plan} (h : Plan.resolve r t = some p) :
    Counterparts r p.unit t := by
  rw [Plan.resolve] at h
  simp only [Option.ite_none_left_eq_some, Bool.or_eq_true, Bool.not_eq_true', not_or,
    Bool.not_eq_true, Bool.not_eq_false, decide_eq_true_eq, Decidable.not_not] at h
  obtain ⟨⟨ht, -⟩, ⟨⟨ho, hback⟩, hlower⟩, h⟩ := h
  cases hunit : Denom.parse (r.entry (r.entry t.text).unit).denom with
  | error fault =>
      rw [hunit] at h
      cases h
  | ok unit =>
      rw [hunit] at h
      cases h
      have htext : unit.text = (r.entry t.text).unit := by
        rw [Denom.text_of_parse hunit, hr.denom_entry ho]
      refine ⟨?_, htext.symm, ?_⟩
      · rw [htext, hback, hr.denom_entry ht]
      · rw [htext]
        exact UInt32.not_le.1 hlower

/-- A unit is not its own counterpart. -/
theorem ne (h : Counterparts r o t) : o ≠ t := by
  rintro rfl
  exact absurd h.lower (UInt32.lt_irrefl _)

end Counterparts

/-- A plan is for the denomination that it was made for. -/
theorem Plan.transport_of_resolve {r : Registry} (hr : r.Valid) {d : Denom} {p : Plan}
    (h : Plan.resolve r d = some p) : p.transport = d := by
  rw [Option.some.inj (h.symm.trans ((Counterparts.of_resolve hr h).resolve hr))]

/-- What undoes a conversion is the plan for the token of the packet. -/
theorem Reversal.resolve_of_plan? {r : Registry} {packet : Packet} {data : PacketData} {d : Denom}
    {p : Plan} (hdenom : (Trace.parse data.denom).localDenom = .ok d)
    (h : Reversal.plan? r packet data = some p) : Plan.resolve r d = some p := by
  rw [Reversal.plan?, Reversal.recognize] at h
  simp only [hdenom] at h
  split at h
  · simpa using h
  · split at h
    · cases h
    · simpa using h

namespace Counterparts

variable {r : Registry} {o t : Denom}

/-- **A failed packet that carries a counterpart is recognized.** A returning voucher has to be
registered with the base of its trace. -/
theorem plan?_eq (h : Counterparts r o t) (hr : r.Valid) {packet : Packet} {data : PacketData}
    (hdenom : (Trace.parse data.denom).localDenom = .ok t)
    (hbase : senderIsSource packet.source data.denom = false →
      (r.entry t.text).baseDenom = (Trace.parse data.denom).base) :
    Reversal.plan? r packet data = some ⟨t, o, Outbound.excess r (r.entry o.text)⟩ := by
  rw [Reversal.plan?, Reversal.recognize]
  simp only [hdenom, h.resolve hr]
  cases hside : senderIsSource packet.source data.denom with
  | true => simp
  | false => simp [h.isEmpty_counterpart hr, hbase hside]

end Counterparts

end Interchain
