import Interchain.Proofs.Transfer.Counterparts
import Interchain.Proofs.Transfer.Run

/-!
# Plans and conversions on the way out

The plan for a counterpart is found by following the unit that its entry names, and a conversion on
the way out by following the counterpart that the entry of a token names. Both walks read the same
pair of entries: wherever there is a plan, the unit of the plan leaves as the counterpart with the
decimals of the plan (`Outbound.transfer_eq_of_counterparts`), and what the plan releases for an
amount is converted into this amount. So a unit belongs to one counterpart only, and a plan undoes
what a transfer does (`Plan.sound_of_resolve`).
-/

set_option autoImplicit false

namespace Interchain

/-! ## The converting branch -/

namespace Outbound

variable {κ β : Type} [Transport κ] [Ledger β] {r : Registry} {entry : Entry}
  {message : TransferMessage}

/-- The converting branch of a transfer once it is known who sends and what the token becomes: the
token is swapped for `counterpart`, with `po` decimals less, and that is sent. -/
def sendConverted (sender : Address) (counterpart : Denom) (po : Nat)
    (message : TransferMessage) : Action κ β TransferResponse := do
  let reduction := message.token.amount.reduce po
  if reduction.converted = 0 then
    throw (.belowGranularity message.token po)
  let deducted : Coin := ⟨message.token.denom, reduction.deducted⟩
  let converted : Coin := ⟨counterpart, reduction.converted⟩
  Action.onLedger (Ledger.sendToModule sender transferModule deducted)
  Action.onLedger (Ledger.mint transferModule converted)
  Action.onLedger (Ledger.sendFromModule transferModule sender converted)
  Action.emit "convert_transfer" [
    ("module", transferModule),
    ("sent_amount", toString deducted.amount),
    ("sent_denom", deducted.denom.text),
    ("convert_amount", toString converted.amount),
    ("convert_denom", converted.denom.text)]
  Transport.send { message with token := converted }

/-- A conversion is that of its sender into the denomination that the entry names. -/
theorem convertAndSend_eq {counterpart : Entry} {po : Nat} {sender : Address} {denom : Denom}
    (hsender : Address.parse message.sender = .ok sender)
    (hdenom : Denom.parse counterpart.denom = .ok denom) :
    (convertAndSend counterpart po message : Action κ β TransferResponse) =
      sendConverted sender denom po message := by
  rw [convertAndSend, hsender, Action.parsed_ok_bind, hdenom, Action.parsed_ok_bind]
  rfl

/-- A token that leaves as its counterpart takes the converting branch. -/
theorem sendAs_of_converts (h : Converts r entry) :
    (sendAs r entry message : Action κ β TransferResponse) =
      convertAndSend (r.entry entry.counterparty) (excess r entry) message := by
  have hlower : ¬ entry.decimals ≤ (r.entry entry.counterparty).decimals :=
    UInt32.not_le.2 h.lower
  rw [sendAs]
  simp only [h.named, h.registered, hlower, Bool.not_true, Bool.false_eq_true, if_false]
  rfl

/-- A token that may leave the chain is sent as its entry says. -/
theorem transfer_of_permitted {exportOnly : Bool}
    (h : exportOnly = true → (r.entry message.token.denom.text).permits [.ibcExport] = true) :
    (transfer r exportOnly message : Action κ β TransferResponse) =
      Action.atomically (sendAs r (r.entry message.token.denom.text) message) := by
  have hpass :
      (exportOnly && !(r.entry message.token.denom.text).permits [.ibcExport]) = false := by
    cases hexport : exportOnly with
    | false => rfl
    | true => rw [h hexport]; rfl
  rw [transfer]
  simp only [hpass, Bool.false_eq_true, if_false]

/-- **A unit leaves as its counterpart.** -/
theorem transfer_eq_of_counterparts (hr : r.Valid) {o t : Denom} (h : Counterparts r o t)
    {exportOnly : Bool} {sender : Address} (htoken : message.token.denom = o)
    (hpermitted : exportOnly = true → (r.entry o.text).permits [.ibcExport] = true)
    (hsender : Address.parse message.sender = .ok sender) :
    (transfer r exportOnly message : Action κ β TransferResponse) =
      Action.atomically (sendConverted sender t (excess r (r.entry o.text)) message) := by
  subst htoken
  rw [transfer_of_permitted hpermitted, sendAs_of_converts (h.converts hr),
    convertAndSend_eq hsender (h.parse_counterpart hr)]

end Outbound

/-! ## Sound plans -/

namespace Counterparts

variable {r : Registry} {o t : Denom}

/-- The counterpart has at least one decimal less. -/
theorem excess_pos (h : Counterparts r o t) : 0 < Outbound.excess r (r.entry o.text) := by
  have hlower := UInt32.lt_iff_toNat_lt.1 h.lower
  rw [Outbound.excess, h.counterparty]
  omega

/-- A unit has one counterpart. -/
theorem unique {u : Denom} (h : Counterparts r o t) (hu : Counterparts r o u) : u = t := by
  apply Validated.ext
  rw [← hu.counterparty, h.counterparty]

end Counterparts

/-- What a plan has to come to in a registry: it turns the counterpart back into what leaves as the
counterpart. -/
structure Plan.Sound (p : Plan) (r : Registry) : Prop where
  positive : 0 < p.po
  distinct : p.unit ≠ p.transport
  /-- By any keeper and on any ledger a message with the unit is converted into the counterpart,
  with the decimals of the plan. -/
  outbound : ∀ {κ β : Type} [Transport κ] [Ledger β] {exportOnly : Bool}
    {message : TransferMessage} {sender : Address}, message.token.denom = p.unit →
    (exportOnly = true → (r.entry p.unit.text).permits [.ibcExport] = true) →
    Address.parse message.sender = .ok sender →
    (Outbound.transfer r exportOnly message : Action κ β TransferResponse) =
      Action.atomically (Outbound.sendConverted sender p.transport p.po message)
  /-- What is released for an amount of the counterpart is all taken to send this amount. -/
  exact : ∀ n : Amount, (p.exchange n).released.amount.reduce p.po =
    ⟨(p.exchange n).released.amount, n⟩

/-- The plan for a counterpart is sound. -/
theorem Counterparts.sound {r : Registry} {o t : Denom} (h : Counterparts r o t) (hr : r.Valid) :
    Plan.Sound ⟨t, o, Outbound.excess r (r.entry o.text)⟩ r where
  positive := h.excess_pos
  distinct := h.ne
  outbound htoken hpermitted hsender :=
    Outbound.transfer_eq_of_counterparts hr h htoken hpermitted hsender
  exact n := Amount.reduce_restore n _

namespace Plan

/-- **Plans are sound, and different counterparts have different units.** -/
theorem sound_of_resolve {r : Registry} (hr : r.Reachable) {t : Denom} {p : Plan}
    (h : resolve r t = some p) :
    p.transport = t ∧ p.Sound r ∧
      ∀ u q, resolve r u = some q → u ≠ t → q.unit ≠ p.unit := by
  have hvalid := hr.valid
  have hpair := Counterparts.of_resolve hvalid h
  have hplan : p = ⟨t, p.unit, Outbound.excess r (r.entry p.unit.text)⟩ :=
    Option.some.inj (h.symm.trans (hpair.resolve hvalid))
  refine ⟨transport_of_resolve hvalid h, ?_, ?_⟩
  · rw [hplan]
    exact hpair.sound hvalid
  · intro u q hq hne hunit
    have hother := Counterparts.of_resolve hvalid hq
    rw [hunit] at hother
    exact hne (hpair.unique hother)

/-- A message with `rowan` leaves as `xrowan` with eight decimals less, since `xrowan` is exchanged
for `rowan`. -/
theorem sound_of_resolve_sample :
    resolve Sample.registry Sample.xrowan = some ⟨Sample.xrowan, Sample.rowan, 8⟩ ∧
      (Outbound.transfer Sample.registry true Sample.message :
          Action ChannelKeeper MemoryLedger TransferResponse) =
        Action.atomically
          (Outbound.sendConverted (Sample.user 1) Sample.xrowan 8 Sample.message) := by
  have hresolve : resolve Sample.registry Sample.xrowan =
      some ⟨Sample.xrowan, Sample.rowan, 8⟩ := by decide
  obtain ⟨-, hsound, -⟩ := sound_of_resolve (.made Sample.ofEntries_entries) hresolve
  refine ⟨hresolve, hsound.outbound rfl ?_ (Address.parse_text (Sample.user 1))⟩
  intro _
  decide

end Plan

end Interchain
