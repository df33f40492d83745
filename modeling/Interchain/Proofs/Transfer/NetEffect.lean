import Interchain.Proofs.Transfer.Counterparts
import Interchain.Proofs.Transfer.Escrow

/-!
# The net effect of a transfer

A transfer is made of many postings, but what it comes to is told in a few lines. A message whose
token is converted takes of the unit what the counterpart can express, and the counterpart goes into
escrow or, if it returns to where it came from, is gone again (`converted_send_effect`). A packet
that is credited gives the receiver the token or what it is worth of the unit (`receipt_effect`).
All other balances and supplies are as they were.
-/

set_option autoImplicit false

namespace Interchain

open Interchain.Action Ledger

/-! ## What the ledgers before and after show -/

section Effects

variable {β : Type} [Ledger β]

/-- What is different between two ledgers after `paid` was converted into `token` and this left over
a hop under its path. -/
structure Exported (sender : Address) (source : Hop) (path : String) (paid token : Coin)
    (b c : β) : Prop where
  given : (balance c sender paid.denom : Int) = balance b sender paid.denom - paid.amount
  kept : (balance c custodian paid.denom : Int) = balance b custodian paid.denom + paid.amount
  passed : balance c sender token.denom = balance b sender token.denom ∧
    balance c custodian token.denom = balance b custodian token.denom
  escrowed : ¬ source.Leads path →
    (balance c source.escrow token.denom : Int) =
        balance b source.escrow token.denom + token.amount ∧
      (supply c token.denom : Int) = supply b token.denom + token.amount
  returned : source.Leads path →
    balance c source.escrow token.denom = balance b source.escrow token.denom ∧
      supply c token.denom = supply b token.denom
  balances : ∀ account d, ¬ ((account = sender ∨ account = custodian) ∧ d = paid.denom) →
    ¬ (account = source.escrow ∧ d = token.denom) → balance c account d = balance b account d
  supplies : ∀ d, d ≠ token.denom → supply c d = supply b d

/-- What is different between two ledgers after a coin came in for a receiver over a hop, as a token
of the other side or on its way home, and was exchanged if there is a plan for it. -/
structure Imported (receiver : Address) (destination : Hop) (home : Prop) (coin : Coin)
    (plan? : Option Plan) (b c : β) : Prop where
  released : home → (balance c destination.escrow coin.denom : Int) =
    balance b destination.escrow coin.denom - coin.amount
  burned : home → (supply c coin.denom : Int) =
    supply b coin.denom - if plan?.isSome then (coin.amount : Int) else 0
  issued : ¬ home → (supply c coin.denom : Int) =
    supply b coin.denom + coin.amount - if plan?.isSome then (coin.amount : Int) else 0
  credited : plan? = none →
    (balance c receiver coin.denom : Int) = balance b receiver coin.denom + coin.amount
  exchanged : ∀ p, plan? = some p →
    (balance c receiver p.unit : Int) =
        balance b receiver p.unit + (coin.amount * Numeral.tenPow p.po : Nat) ∧
      (balance c custodian p.unit : Int) =
        balance b custodian p.unit - (coin.amount * Numeral.tenPow p.po : Nat) ∧
      balance c receiver coin.denom = balance b receiver coin.denom
  balances : ∀ account d, ¬ (home ∧ account = destination.escrow ∧ d = coin.denom) →
    ¬ (plan? = none ∧ account = receiver ∧ d = coin.denom) →
    (∀ p, plan? = some p → ¬ ((account = receiver ∨ account = custodian) ∧ d = p.unit)) →
    balance c account d = balance b account d
  supplies : ∀ d, d ≠ coin.denom → supply c d = supply b d

variable {b c : β}

/-! ## Shipments -/

section Shipped

variable {sh : Shipment} {message : TransferMessage} {paid : Coin}

theorem balance_of_shipped (hposts : Journal.post (view b) (sh.journal message) = .ok (view c))
    (hdeducted : sh.deducted = some paid) (account : Address) (d : Denom) :
    (balance c account d : Int) = balance b account d +
      (paid.share custodian account d - paid.share sh.sender account d +
        if senderIsSource ⟨message.sourcePort, message.sourceChannel⟩ sh.path then
          sh.token.share (Hop.mk message.sourcePort message.sourceChannel).escrow account d
        else 0) := by
  have hchange := Journal.balance_post hposts account d
  simp only [Shipment.change_journal, Shipment.given, hdeducted, Option.elim_some,
    Option.getD_some, balance_view] at hchange
  exact hchange

theorem supply_of_shipped (hposts : Journal.post (view b) (sh.journal message) = .ok (view c))
    (hdeducted : sh.deducted = some paid) (d : Denom) :
    (supply c d : Int) = supply b d +
      (sh.token.worth d -
        if senderIsSource ⟨message.sourcePort, message.sourceChannel⟩ sh.path then 0
        else sh.token.worth d) := by
  have hissue := Journal.supply_post hposts d
  simp only [Shipment.issue_journal, hdeducted, Option.elim_some, supply_view] at hissue
  exact hissue

/-- **A converted shipment comes to an export.** -/
theorem exported_of_posts (hposts : Journal.post (view b) (sh.journal message) = .ok (view c))
    (hdeducted : sh.deducted = some paid) (hdenom : paid.denom ≠ sh.token.denom)
    (hcustodian : sh.sender ≠ custodian)
    (hsender : sh.sender ≠ (Hop.mk message.sourcePort message.sourceChannel).escrow)
    (hescrow : (Hop.mk message.sourcePort message.sourceChannel).escrow ≠ custodian) :
    Exported sh.sender ⟨message.sourcePort, message.sourceChannel⟩ sh.path paid sh.token b c := by
  have hbalance := balance_of_shipped hposts hdeducted
  have hsupply := supply_of_shipped hposts hdeducted
  -- what the hop is made of does not matter, only which account is its own
  generalize Hop.mk message.sourcePort message.sourceChannel = source at *
  have hside : source.Leads sh.path ↔ senderIsSource source sh.path = false :=
    senderIsSource_eq_false_iff_leads.symm
  constructor
  case given =>
    have h := hbalance sh.sender paid.denom
    rw [Coin.share_of_ne hcustodian, Coin.share_self, Coin.share_of_ne hsender, ite_self] at h
    omega
  case kept =>
    have h := hbalance custodian paid.denom
    rw [Coin.share_self, Coin.share_of_ne hcustodian.symm, Coin.share_of_ne hescrow.symm,
      ite_self] at h
    omega
  case passed =>
    -- the module mints the token for the sender, who gives it away at once
    have h := hbalance sh.sender sh.token.denom
    have h' := hbalance custodian sh.token.denom
    rw [Coin.share_of_denom_ne hdenom.symm, Coin.share_of_denom_ne hdenom.symm,
      Coin.share_of_ne hsender, ite_self] at h
    rw [Coin.share_of_denom_ne hdenom.symm, Coin.share_of_denom_ne hdenom.symm,
      Coin.share_of_ne hescrow.symm, ite_self] at h'
    exact ⟨Int.ofNat_inj.1 (by omega), Int.ofNat_inj.1 (by omega)⟩
  case escrowed =>
    intro hleads
    rw [hside, Bool.not_eq_false] at hleads
    have h := hbalance source.escrow sh.token.denom
    have h' := hsupply sh.token.denom
    rw [Coin.share_of_denom_ne hdenom.symm, Coin.share_of_denom_ne hdenom.symm, if_pos hleads,
      Coin.share_self] at h
    rw [if_pos hleads, Coin.worth_self] at h'
    omega
  case returned =>
    -- a token that returns was minted by the conversion and burned by the departure
    intro hleads
    rw [hside] at hleads
    have h := hbalance source.escrow sh.token.denom
    have h' := hsupply sh.token.denom
    rw [Coin.share_of_denom_ne hdenom.symm, Coin.share_of_denom_ne hdenom.symm, hleads,
      if_neg Bool.false_ne_true] at h
    rw [hleads, if_neg Bool.false_ne_true] at h'
    exact ⟨Int.ofNat_inj.1 (by omega), Int.ofNat_inj.1 (by omega)⟩
  case balances =>
    intro account d hpaid htoken
    have hkept : paid.share custodian account d = 0 :=
      if_neg fun hboth => hpaid ⟨.inr hboth.1, hboth.2⟩
    have hgiven : paid.share sh.sender account d = 0 :=
      if_neg fun hboth => hpaid ⟨.inl hboth.1, hboth.2⟩
    have hescrowed : sh.token.share source.escrow account d = 0 := if_neg htoken
    have h := hbalance account d
    rw [hkept, hgiven, hescrowed, ite_self] at h
    exact Int.ofNat_inj.1 (by omega)
  case supplies =>
    intro d hd
    have h := hsupply d
    rw [Coin.worth_of_ne hd, ite_self] at h
    exact Int.ofNat_inj.1 (by omega)

end Shipped

/-! ## Credits -/

section Credited

variable {m : TransferModule} {packet : Packet} {path : String} {receiver : Address} {coin : Coin}

theorem balance_of_credited
    (hposts : Journal.post (view b) (m.creditJournal packet path receiver coin) = .ok (view c))
    (hplan : Plan.resolve m.registry coin.denom = none) (account : Address) (d : Denom) :
    (balance c account d : Int) = balance b account d +
      (coin.share receiver account d -
        if receiverIsSource packet.source path then coin.share packet.destination.escrow account d
        else 0) := by
  have hchange := Journal.balance_post hposts account d
  rw [TransferModule.change_creditJournal_of_none hplan] at hchange
  exact hchange

theorem balance_of_exchanged (hr : m.registry.Valid)
    (hposts : Journal.post (view b) (m.creditJournal packet path receiver coin) = .ok (view c))
    (p : Plan) (hplan : Plan.resolve m.registry coin.denom = some p) (account : Address)
    (d : Denom) :
    (balance c account d : Int) = balance b account d +
      (Coin.share ⟨p.unit, coin.amount * Numeral.tenPow p.po⟩ receiver account d -
        Coin.share ⟨p.unit, coin.amount * Numeral.tenPow p.po⟩ custodian account d -
          if receiverIsSource packet.source path then
            coin.share packet.destination.escrow account d
          else 0) := by
  have hchange := Journal.balance_post hposts account d
  rw [TransferModule.change_creditJournal_of_some hr hplan, Plan.exchange,
    Amount.restore_eq] at hchange
  exact hchange

theorem supply_of_credited (hr : m.registry.Valid)
    (hposts : Journal.post (view b) (m.creditJournal packet path receiver coin) = .ok (view c))
    (d : Denom) :
    (supply c d : Int) = supply b d +
      ((if receiverIsSource packet.source path then 0 else coin.worth d) -
        if (Plan.resolve m.registry coin.denom).isSome then coin.worth d else 0) := by
  have hissue := Journal.supply_post hposts d
  rw [TransferModule.issue_creditJournal hr] at hissue
  exact hissue

/-- **A packet that is credited comes to an import.** -/
theorem imported_of_posts (hr : m.registry.Valid)
    (hposts : Journal.post (view b) (m.creditJournal packet path receiver coin) = .ok (view c))
    (hcustodian : receiver ≠ custodian) (hreceiver : receiver ≠ packet.destination.escrow)
    (hescrow : packet.destination.escrow ≠ custodian) :
    Imported receiver packet.destination (packet.source.Leads path) coin
      (Plan.resolve m.registry coin.denom) b c := by
  have hplain := balance_of_credited hposts
  have hexchanged := balance_of_exchanged hr hposts
  have hsupply := supply_of_credited hr hposts
  rw [← receiverIsSource_iff_leads]
  generalize receiverIsSource packet.source path = home at *
  constructor
  case released =>
    intro hhome
    cases hplan : Plan.resolve m.registry coin.denom with
    | none =>
        have h := hplain hplan packet.destination.escrow coin.denom
        rw [Coin.share_of_ne hreceiver.symm, if_pos hhome, Coin.share_self] at h
        omega
    | some p =>
        have h := hexchanged p hplan packet.destination.escrow coin.denom
        rw [Coin.share_of_ne hreceiver.symm, Coin.share_of_ne hescrow, if_pos hhome,
          Coin.share_self] at h
        omega
  case burned =>
    intro hhome
    have h := hsupply coin.denom
    rw [if_pos hhome, Coin.worth_self] at h
    omega
  case issued =>
    intro hhome
    have h := hsupply coin.denom
    rw [if_neg hhome, Coin.worth_self] at h
    omega
  case credited =>
    intro hplan
    have h := hplain hplan receiver coin.denom
    rw [Coin.share_self, Coin.share_of_ne hreceiver, ite_self] at h
    omega
  case exchanged =>
    intro p hplan
    -- the counterpart passes through the receiver's account, which keeps the unit only
    have hne : coin.denom ≠ p.unit := (Counterparts.of_resolve hr hplan).ne.symm
    have hgained := hexchanged p hplan receiver p.unit
    have hlost := hexchanged p hplan custodian p.unit
    have hkept := hexchanged p hplan receiver coin.denom
    rw [Coin.share_self, Coin.share_of_ne hcustodian, Coin.share_of_ne hreceiver,
      ite_self] at hgained
    rw [Coin.share_of_ne hcustodian.symm, Coin.share_self, Coin.share_of_ne hescrow.symm,
      ite_self] at hlost
    rw [Coin.share_of_denom_ne hne, Coin.share_of_denom_ne hne, Coin.share_of_ne hreceiver,
      ite_self] at hkept
    dsimp only at hgained hlost
    exact ⟨by omega, by omega, Int.ofNat_inj.1 (by omega)⟩
  case balances =>
    -- what is left are accounts at which no coin of either formula stays
    intro account d hreleased hcredited hunit
    have hdrawn : (if home = true then coin.share packet.destination.escrow account d else 0) =
        0 := by
      split
      · rename_i hhome
        exact if_neg fun hboth => hreleased ⟨hhome, hboth⟩
      · rfl
    cases hplan : Plan.resolve m.registry coin.denom with
    | none =>
        have hgained : coin.share receiver account d = 0 :=
          if_neg fun hboth => hcredited ⟨hplan, hboth⟩
        have h := hplain hplan account d
        rw [hdrawn, hgained] at h
        exact Int.ofNat_inj.1 (by omega)
    | some p =>
        have hgained : Coin.share ⟨p.unit, coin.amount * Numeral.tenPow p.po⟩ receiver account d =
            0 := if_neg fun hboth => hunit p hplan ⟨.inl hboth.1, hboth.2⟩
        have hlost : Coin.share ⟨p.unit, coin.amount * Numeral.tenPow p.po⟩ custodian account d =
            0 := if_neg fun hboth => hunit p hplan ⟨.inr hboth.1, hboth.2⟩
        have h := hexchanged p hplan account d
        rw [hdrawn, hgained, hlost] at h
        exact Int.ofNat_inj.1 (by omega)
  case supplies =>
    intro d hd
    have h := hsupply d
    rw [Coin.worth_of_ne hd, ite_self, ite_self] at h
    exact Int.ofNat_inj.1 (by omega)

end Credited

end Effects

/-! ## Messages that are converted -/

/-- What a message that was sent under `path` as `token`, with `paid` converted into it, leaves
behind: the export, and a packet that says what left. -/
structure TransferMessage.SentAs {β : Type} [Ledger β] (message : TransferMessage)
    (sender : Address) (response : TransferResponse) (path : String) (paid token : Coin)
    (s u : Stage ChannelKeeper β) : Prop where
  positive : 0 < token.amount
  fullPath : s.keeper.fullPath token.denom = .ok path
  exported : Exported sender ⟨message.sourcePort, message.sourceChannel⟩ path paid token
    s.ledger u.ledger
  committed : ∃ packet, u.keeper.commitments.get? ⟨message.sourceChannel, response.sequence⟩ =
      some packet ∧
    packet.decodeData = .ok ⟨path, token.amount, message.sender, message.receiver⟩ ∧
    packet.timeoutHeight = message.timeoutHeight ∧
    packet.timeoutTimestamp = message.timeoutTimestamp

namespace Outbound

variable {κ β : Type} [Transport κ] [Ledger β] {s : Stage κ β}

/-- A token whose entry names a registered counterpart with less decimals has to be converted. -/
theorem converts_of_lower {r : Registry} (hr : r.Valid) {entry counterpart : Entry} {t : Denom}
    (hnamed : entry.counterparty = t.text) (hcounterpart : r.find? t.text = some counterpart)
    (hlower : counterpart.decimals < entry.decimals) :
    Converts r entry ∧ Denom.parse (r.entry entry.counterparty).denom = .ok t ∧
      excess r entry = entry.decimals.toNat - counterpart.decimals.toNat := by
  have hother : r.entry entry.counterparty = counterpart := by
    rw [hnamed]
    exact Registry.entry_of_find? hcounterpart
  have htext : counterpart.denom = t.text := (hr _ _ hcounterpart).1
  refine ⟨⟨?_, ?_, ?_⟩, ?_, ?_⟩
  · rw [Entry.hasCounterparty, hnamed, Denom.isEmpty_text]
    rfl
  · rw [hother, Entry.isEmpty, htext]
    exact Denom.isEmpty_text t
  · rw [hother]
    exact hlower
  · rw [hother, htext, Denom.parse_text]
  · rw [excess, hother]

/-- A token of which its counterpart can express nothing is refused. -/
theorem sendAs_eq_error_of_converted_eq_zero {r : Registry} {entry : Entry}
    {message : TransferMessage} {sender : Address} {denom : Denom} (hconverts : Converts r entry)
    (hsender : Address.parse message.sender = .ok sender)
    (hdenom : Denom.parse (r.entry entry.counterparty).denom = .ok denom)
    (hzero : (message.token.amount.reduce (excess r entry)).converted = 0) :
    sendAs r entry message s =
      .error (.belowGranularity message.token (excess r entry)) s := by
  have hle : ¬ entry.decimals ≤ (r.entry entry.counterparty).decimals :=
    UInt32.not_le.2 hconverts.lower
  have hconvert : convertAndSend (r.entry entry.counterparty) (excess r entry) message s =
      .error (.belowGranularity message.token (excess r entry)) s := by
    rw [convertAndSend]
    simp only [bind_eq_error_iff, parsed_eq_error_iff, parsed_eq_ok_iff, guard_eq_error_iff]
    exact .inr ⟨sender, s, ⟨hsender, rfl⟩,
      .inr ⟨denom, s, ⟨hdenom, rfl⟩, .inl ⟨hzero, trivial, rfl⟩⟩⟩
  rw [sendAs]
  simp only [ite_eq_error_iff, hconverts.named, hconverts.registered, hle]
  simpa [excess] using hconvert

end Outbound

namespace TransferModule

variable {m : TransferModule} {β : Type} [Ledger β] {s : Stage ChannelKeeper β}
  {message : TransferMessage}

/-- A message that is let through is refused if the counterpart can express nothing of it. -/
theorem transfer_eq_error_of_converted_eq_zero {sender : Address} {denom : Denom}
    (henabled : m.params.sendEnabled = true) (hport : message.sourcePort = m.params.port)
    (hpermitted : m.params.requireExport = true →
      (m.registry.entry message.token.denom.text).permits [.ibcExport] = true)
    (hconverts : Outbound.Converts m.registry (m.registry.entry message.token.denom.text))
    (hsender : Address.parse message.sender = .ok sender)
    (hdenom : Denom.parse (m.registry.entry
      (m.registry.entry message.token.denom.text).counterparty).denom = .ok denom)
    (hzero : (message.token.amount.reduce (Outbound.excess m.registry
      (m.registry.entry message.token.denom.text))).converted = 0) :
    m.transfer message s = .error (.belowGranularity message.token
      (Outbound.excess m.registry (m.registry.entry message.token.denom.text))) s := by
  rw [transfer, Outbound.transfer]
  simp only [guard_eq_error_iff, atomically_eq_error_iff]
  have hopen : ¬ (!m.params.sendEnabled) = true := by simp [henabled]
  have hours : ¬ message.sourcePort ≠ m.params.port := not_not.2 hport
  refine .inr ⟨hopen, .inr ⟨hours, .inr ⟨?_, ⟨s.keeper, .start s.ledger, []⟩, ?_, rfl⟩⟩⟩
  · simpa using hpermitted
  · exact Outbound.sendAs_eq_error_of_converted_eq_zero hconverts hsender hdenom hzero

/-- A message that is converted and sent leaves the export and the packet. -/
theorem sentAs_of_ships {u : Stage ChannelKeeper β} {sh : Shipment} {paid : Coin}
    (hships : m.Ships s.keeper message sh)
    (hposts : Journal.post (view s.ledger) (sh.journal message) = .ok (view u.ledger))
    (hkeeper : u.keeper = s.keeper.commit (sh.packet s.keeper message))
    (hdeducted : sh.deducted = some paid) (hdenom : paid.denom ≠ sh.token.denom)
    (hcustodian : sh.sender ≠ custodian)
    (hsender : sh.sender ≠ (Hop.mk message.sourcePort message.sourceChannel).escrow)
    (hescrow : (Hop.mk message.sourcePort message.sourceChannel).escrow ≠ custodian) :
    message.SentAs sh.sender ⟨s.keeper.sequenceOf message.sourceChannel⟩ sh.path paid sh.token
      s u where
  positive := Nat.pos_of_ne_zero hships.admits.amount
  fullPath := hships.admits.path
  exported := exported_of_posts hposts hdeducted hdenom hcustodian hsender hescrow
  committed := by
    refine ⟨sh.packet s.keeper message, ?_, sh.decodeData_packet _ _, rfl, rfl⟩
    rw [hkeeper]
    exact FiniteMap.get?_insert_eq_some_iff.2 (.inl ⟨rfl, rfl⟩)

end TransferModule

namespace Sample

/-- The sample channel is open. -/
def connected : Stage ChannelKeeper MemoryLedger :=
  desk.run stage [opening]

/-- And some of the counterpart is on the other chain. -/
def abroad : Stage ChannelKeeper MemoryLedger :=
  desk.run connected [.transfer message]

/-- A message with too little to send. -/
def pittance : TransferMessage :=
  { message with token := ⟨rowan, 7⟩ }

end Sample

namespace TransferModule

variable {β : Type} [Ledger β]

/-- **The net effect of a message that is converted.** Let the entry of its token name a registered
counterpart `t` with `po` decimals less, and let `n` be what `t` can express of the amount. If the
message is sent, and its sender, the module and the escrow account of the channel are three, then
`n` is positive, the sender gave what `n` is worth of the token and the module has it, `n` of `t`
went over the channel, nothing else is different, and the packet that is committed says so. If `n`
is zero, the message is refused for it, as long as nothing keeps it from being converted. -/
theorem converted_send_effect [LawfulLedger β] (m : TransferModule) {es : List Entry}
    (hentries : Registry.ofEntries es = .ok m.registry) (s : Stage ChannelKeeper β)
    (message : TransferMessage) (t : Denom) (unit counterpart : Entry)
    (hunit : m.registry.find? message.token.denom.text = some unit)
    (hnamed : unit.counterparty = t.text)
    (hcounterpart : m.registry.find? t.text = some counterpart)
    (hlower : counterpart.decimals < unit.decimals) :
    let source : Hop := ⟨message.sourcePort, message.sourceChannel⟩
    let po := unit.decimals.toNat - counterpart.decimals.toNat
    let n : Amount := message.token.amount / Numeral.tenPow po
    (∀ sender response u, Address.parse message.sender = .ok sender → sender ≠ custodian →
      sender ≠ source.escrow → source.escrow ≠ custodian →
      m.transfer message s = .ok response u →
        ∃ path, message.SentAs sender response path
          ⟨message.token.denom, n * Numeral.tenPow po⟩ ⟨t, n⟩ s u) ∧
      (n = 0 → (∃ sender, Address.parse message.sender = .ok sender) →
        m.params.sendEnabled = true → message.sourcePort = m.params.port →
        (m.params.requireExport = true → unit.permits [.ibcExport] = true) →
        m.transfer message s = .error (.belowGranularity message.token po) s) := by
  intro source po n
  have hentry : m.registry.entry message.token.denom.text = unit := Registry.entry_of_find? hunit
  obtain ⟨hconverts, hdenom, hexcess⟩ := Outbound.converts_of_lower
    (Registry.valid_ofEntries hentries) hnamed hcounterpart hlower
  have hconverted : (message.token.amount.reduce po).converted = n := Amount.converted_reduce _ _
  have hdeducted : (message.token.amount.reduce po).deducted = n * Numeral.tenPow po := by
    rw [Amount.deducted_reduce, hconverted]
  constructor
  · intro sender response u hsender hcustodian hescrow hapart hsent
    obtain ⟨sh, hships, hposts, rfl, hkeeper, -⟩ := transfer_eq_ok hsent
    obtain ⟨hpart, hamount, hpaid⟩ := (hentry ▸ hships.carries).of_converts hconverts
    rw [hexcess] at hamount hpaid
    -- the shipment is the one that the registry and the message say
    obtain rfl : sh.sender = sender := Except.ok.inj (hships.admits.sender.symm.trans hsender)
    have htoken : sh.token = ⟨t, n⟩ := by
      rw [← hconverted, ← hamount, Except.ok.inj (hdenom.symm.trans hpart)]
    rw [hdeducted] at hpaid
    have hne : message.token.denom ≠ sh.token.denom := by
      rw [htoken]
      rintro rfl
      cases hunit.symm.trans hcounterpart
      exact UInt32.lt_irrefl _ hlower
    refine ⟨sh.path, ?_⟩
    rw [← htoken]
    exact sentAs_of_ships hships hposts hkeeper hpaid hne hcustodian hescrow hapart
  · rintro hzero ⟨sender, hsender⟩ henabled hport hpermitted
    rw [← hentry] at hpermitted hconverts hdenom
    have herror := transfer_eq_error_of_converted_eq_zero (s := s) henabled hport hpermitted
      hconverts hsender hdenom (by rw [hentry, hexcess, hconverted, hzero])
    rw [hentry, hexcess] at herror
    exact herror

/-- Of ten digits eight are too small to go, so the first user gives what twelve are worth. Seven
are too few to send any. -/
theorem converted_send_effect_sample :
    (∃ path u, Sample.desk.transfer Sample.message Sample.connected = .ok ⟨1⟩ u ∧
      Sample.message.SentAs (Sample.user 1) ⟨1⟩ path ⟨Sample.rowan, 1200000000⟩
        ⟨Sample.xrowan, 12⟩ Sample.connected u) ∧
      Sample.desk.transfer Sample.pittance Sample.connected =
        .error (.belowGranularity ⟨Sample.rowan, 7⟩ 8) Sample.connected := by
  have hsender : Address.parse Sample.message.sender = .ok (Sample.user 1) :=
    Address.parse_text (Sample.user 1)
  have hreply : (Sample.desk.serve Sample.connected (.transfer Sample.message)).1 = .sent ⟨1⟩ := by
    decide +kernel
  obtain ⟨u, hsent⟩ : ∃ u, Sample.desk.transfer Sample.message Sample.connected = .ok ⟨1⟩ u := by
    rw [serve] at hreply
    cases hsent : Sample.desk.transfer Sample.message Sample.connected with
    | error e u =>
        rw [hsent] at hreply
        cases hreply
    | ok response u =>
        rw [hsent] at hreply
        cases hreply
        exact ⟨u, rfl⟩
  obtain ⟨heffect, -⟩ := converted_send_effect Sample.desk Sample.ofEntries_entries
    Sample.connected Sample.message Sample.xrowan _ _ rfl rfl rfl (by decide)
  obtain ⟨-, hrefused⟩ := converted_send_effect Sample.desk Sample.ofEntries_entries
    Sample.connected Sample.pittance Sample.xrowan _ _ rfl rfl rfl (by decide)
  obtain ⟨path, hsentAs⟩ := heffect (Sample.user 1) _ u hsender (by decide +kernel)
    (by decide +kernel) (by decide +kernel) hsent
  exact ⟨⟨path, u, hsent, hsentAs⟩, hrefused (by decide) ⟨_, hsender⟩ rfl rfl (by decide)⟩

/-- **The net effect of a packet that is credited.** Let the receiver, the module and the escrow
account at the end of the channel be three. If a packet is acknowledged as received, its token came
in under a denomination `d`: under that of the path behind the hop if it comes home over it, and
under the voucher of the longer path otherwise. What comes home is taken out of escrow, and what
does not is issued. The receiver has it, or if there is a plan for `d`, what it is worth of the unit
from the account of the module, and then the supply of `d` is that much lower. Nothing else is
different. -/
theorem receipt_effect [LawfulLedger β] (m : TransferModule) {es : List Entry}
    (hentries : Registry.ofEntries es = .ok m.registry) (s u : Stage ChannelKeeper β)
    (packet : Packet) (data : PacketData) (receiver : Address)
    (hdata : packet.decodeData = .ok data) (hreceiver : Address.parse data.receiver = .ok receiver)
    (hcustodian : receiver ≠ custodian) (hapart : receiver ≠ packet.destination.escrow)
    (hescrow : packet.destination.escrow ≠ custodian)
    (hack : m.onPacket packet s = .ok .success u) :
    ∃ d, (∀ rest, data.denom = packet.source.extend rest →
        (Trace.parse rest).localDenom = .ok d) ∧
      (¬ packet.source.Leads data.denom →
        d = Trace.voucher (packet.destination.extend data.denom)) ∧
      Imported receiver packet.destination (packet.source.Leads data.denom) ⟨d, data.amount⟩
        (Plan.resolve m.registry d) s.ledger u.ledger := by
  -- a packet that cannot be credited is acknowledged with the cause
  obtain ⟨credited, hreceive⟩ : ∃ credited, m.receive packet s = .ok credited u := by
    rcases onPacket_eq_ok_iff.1 hack with ⟨credited, hreceive, -⟩ | ⟨_, _, -, hfailed, -⟩
    · exact ⟨credited, hreceive⟩
    · cases hfailed
  obtain ⟨data', receiver', ⟨d, a⟩, hcredits, hposts, -, -⟩ := receive_eq_ok hreceive
  obtain rfl : data' = data := Except.ok.inj (hcredits.decoded.symm.trans hdata)
  obtain rfl : receiver' = receiver := Except.ok.inj (hcredits.receiver.symm.trans hreceiver)
  obtain rfl : a = data'.amount := hcredits.amount
  have hlocal := hcredits.denom
  refine ⟨d, ?_, ?_, imported_of_posts (Registry.valid_ofEntries hentries) hposts hcustodian
    hapart hescrow⟩
  · intro rest hpath
    rw [hpath, ChannelKeeper.arrivalTrace, if_pos (receiverIsSource_extend _ _),
      removeHop_extend] at hlocal
    exact hlocal
  · intro hleads
    rw [← receiverIsSource_iff_leads, Bool.not_eq_true] at hleads
    exact Except.ok.inj (hlocal.symm.trans (ChannelKeeper.localDenom_arrivalTrace hleads))

/-- Five of the counterpart come home, and the second user gets what they are worth. -/
theorem receipt_effect_sample :
    ∃ u, Sample.desk.onPacket Sample.homecoming Sample.abroad = .ok .success u ∧
      Imported (Sample.user 2) Sample.hop (Sample.hop.Leads (Sample.hop.extend "xrowan"))
        ⟨Sample.xrowan, 5⟩ (some ⟨Sample.xrowan, Sample.rowan, 8⟩) Sample.abroad.ledger
        u.ledger := by
  have hreply : (Sample.desk.serve Sample.abroad (.receive Sample.homecoming)).1 =
      .received .success := by
    decide +kernel
  obtain ⟨ack, u, hack⟩ := exists_onPacket Sample.desk Sample.homecoming Sample.abroad
  rw [serve_of_onPacket hack] at hreply
  cases hreply
  obtain ⟨d, hhome, -, heffect⟩ := receipt_effect Sample.desk Sample.ofEntries_entries
    Sample.abroad u Sample.homecoming _ (Sample.user 2) Sample.decodeData_homecoming
    (Address.parse_text (Sample.user 2)) (by decide +kernel) (by decide +kernel)
    (by decide +kernel) hack
  have hlocal : (Trace.parse Sample.xrowan.text).localDenom = .ok Sample.xrowan :=
    Trace.localDenom_of_plain (by decide +kernel)
  obtain rfl := Except.ok.inj ((hhome "xrowan" rfl).symm.trans hlocal)
  have hplan : Plan.resolve Sample.desk.registry Sample.xrowan =
      some ⟨Sample.xrowan, Sample.rowan, 8⟩ := by
    decide
  rw [hplan] at heffect
  exact ⟨u, hack, heffect⟩

end TransferModule

end Interchain
