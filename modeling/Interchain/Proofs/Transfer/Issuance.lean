import Interchain.Proofs.Transfer.Counterparts
import Interchain.Proofs.Transfer.Run

/-!
# What is issued

Coins are created and destroyed in few ways: a token is converted into its counterpart or back, a
voucher leaves for the side that it is from, a token from the other side comes in, and a voucher
that left is refunded. `TransferModule.Issuable` lists them, and a step issues nothing else
(`exists_journal_issuable`). A denomination of this chain that is the counterpart of no other is
issued in none of these ways, so its supply stays what it is (`native_supply_kept`).
-/

set_option autoImplicit false

namespace Interchain

open Ledger

/-! ## Postings that issue -/

/-- Whether the posting creates or destroys coins of a denomination. -/
def Posting.Issues (d : Denom) : Posting → Prop
  | .pay _ _ _ => False
  | .mint _ coin => coin.denom = d
  | .burn _ coin => coin.denom = d

theorem Posting.issue_of_not_issues {d : Denom} {j : Posting} (h : ¬ j.Issues d) :
    j.issue d = 0 := by
  cases j with
  | pay source target coin => rfl
  | mint name coin => exact Coin.worth_of_ne fun hd => h hd.symm
  | burn name coin =>
      rw [issue, Coin.worth_of_ne fun hd => h hd.symm]
      rfl

namespace Journal

/-- Whether some posting of the journal does. -/
def Issues (d : Denom) (js : Journal) : Prop :=
  ∃ j ∈ js, j.Issues d

variable {d : Denom} {js ks : Journal}

@[simp]
theorem issues_nil : ¬ Issues d [] :=
  fun ⟨_, hj, _⟩ => nomatch hj

@[simp]
theorem issues_cons {j : Posting} : Issues d (j :: js) ↔ j.Issues d ∨ Issues d js := by
  simp [Issues]

@[simp]
theorem issues_append : Issues d (js ++ ks) ↔ Issues d js ∨ Issues d ks := by
  simp [Issues, or_and_right, exists_or]

/-- What issues nothing of a denomination adds nothing to its supply. -/
theorem issue_of_not_issues (h : ¬ Issues d js) : issue js d = 0 := by
  induction js with
  | nil => rfl
  | cons j js ih =>
      rw [issues_cons, not_or] at h
      rw [issue, Posting.issue_of_not_issues h.1, ih h.2]
      rfl

end Journal

section Journals

variable {d : Denom} {source : Hop} {path : String} {account : Address} {coin : Coin}

theorem ChannelKeeper.issues_departure :
    Journal.Issues d (departure source path account coin) ↔
      senderIsSource source path = false ∧ coin.denom = d := by
  rw [departure]
  cases hside : senderIsSource source path with
  | true => simp [Posting.Issues]
  | false => simp [Posting.Issues]

theorem ChannelKeeper.issues_refundJournal :
    Journal.Issues d (refundJournal source path account coin) ↔
      senderIsSource source path = false ∧ coin.denom = d := by
  rw [refundJournal]
  cases hside : senderIsSource source path with
  | true => simp [Posting.Issues]
  | false => simp [Posting.Issues, issuance]

theorem ChannelKeeper.issues_arrival {packet : Packet} :
    Journal.Issues d (arrival packet path account coin) ↔
      receiverIsSource packet.source path = false ∧ coin.denom = d := by
  rw [arrival]
  cases hside : receiverIsSource packet.source path with
  | true => simp [Posting.Issues]
  | false => simp [Posting.Issues, issuance]

theorem Plan.issues_journalOf {plan? : Option Plan} {a : Amount} :
    Journal.Issues d (journalOf plan? account a) ↔ ∃ p, plan? = some p ∧ p.transport = d := by
  cases plan? with
  | none => simp [journalOf]
  | some p => simp [journalOf, journal, Posting.Issues, exchange]

theorem Shipment.issues_preparation {sh : Shipment} :
    Journal.Issues d sh.preparation ↔ (∃ coin, sh.deducted = some coin) ∧ sh.token.denom = d := by
  rw [preparation]
  cases sh.deducted with
  | none => simp
  | some deducted => simp [Outbound.conversion, Posting.Issues]

end Journals

namespace TransferModule

/-! ## Denominations that are issued -/

/-- Whether a denomination is registered as the counterpart of another. -/
structure Names (m : TransferModule) (name : String) (d : Denom) : Prop where
  counterparty : (m.registry.entry name).counterparty = d.text
  registered : (m.registry.entry d.text).isEmpty = false

/-- Why a denomination may be issued when a keeper `k` becomes `l`. -/
inductive Issuable (m : TransferModule) (k l : ChannelKeeper) (d : Denom) : Prop where
  /-- A token is converted into it or back. -/
  | named {name : String} (names : m.Names name d)
  /-- It leaves for the side that it is from. -/
  | departed {hop : Hop} {path : String} (spelled : k.fullPath d = .ok path)
      (away : senderIsSource hop path = false)
  /-- It comes in from the other side, and its trace is kept. -/
  | arrived {packet : Packet} {path : String}
      (denom : (ChannelKeeper.arrivalTrace packet path).localDenom = .ok d)
      (foreign : receiverIsSource packet.source path = false)
      (keeper : l = k.afterArrival packet path d)
  /-- It left like that, and it is refunded. -/
  | refunded {packet : Packet} {data : PacketData} {sender : Address}
      (refunds : Refunds k packet data sender d)
      (away : senderIsSource packet.source data.denom = false)

variable {m : TransferModule} {d : Denom}

/-- A token that was converted left as a counterpart. -/
theorem Ships.names (hr : m.registry.Valid) {k : ChannelKeeper} {message : TransferMessage}
    {sh : Shipment} (h : m.Ships k message sh) :
    sh.token = message.token ∧ sh.deducted = none ∨
      m.Names message.token.denom.text sh.token.denom := by
  cases h.carries with
  | literal hpasses hliteral hkept => exact .inl ⟨hliteral, hkept⟩
  | converted hconverts hcounterpart hamount hpositive hdeducted =>
      have htext : sh.token.denom.text =
          (m.registry.entry message.token.denom.text).counterparty := by
        rw [Denom.text_of_parse hcounterpart, hr.denom_entry hconverts.registered]
      refine .inr ⟨htext.symm, ?_⟩
      rw [htext]
      exact hconverts.registered

/-- What a plan takes in is a counterpart. -/
theorem names_of_resolve (hr : m.registry.Valid) {p : Plan}
    (h : Plan.resolve m.registry d = some p) : m.Names p.unit.text d where
  counterparty := (Counterparts.of_resolve hr h).counterparty
  registered := (Counterparts.of_resolve hr h).isEmpty_counterpart hr

variable {β : Type} [Ledger β] {s t : Stage ChannelKeeper β}

/-- **What a step issues is issuable.** -/
theorem exists_journal_issuable (hr : m.registry.Valid) {q : Request} {reply : Reply}
    (hstep : m.Step s q reply t) :
    ∃ js, Journal.post (view s.ledger) js = .ok (view t.ledger) ∧
      ∀ d, Journal.Issues d js → m.Issuable s.keeper t.keeper d := by
  cases hstep with
  | opened channel remote => exact ⟨[], rfl, fun d h => (Journal.issues_nil h).elim⟩
  | @sent message sh _ hships hposts hkeeper hevents =>
      refine ⟨_, hposts, fun d h => ?_⟩
      rw [Shipment.journal, Journal.issues_append, Shipment.issues_preparation,
        ChannelKeeper.issues_departure] at h
      rcases h with ⟨⟨deducted, hdeducted⟩, rfl⟩ | ⟨haway, rfl⟩
      · -- only a conversion deducts something
        rcases hships.names hr with ⟨-, hkept⟩ | hnames
        · cases hkept.symm.trans hdeducted
        · exact .named hnames
      · exact .departed hships.admits.path haway
  | @credited packet data receiver coin _ hcredits hposts hkeeper hevents =>
      refine ⟨_, hposts, fun d h => ?_⟩
      rw [creditJournal, Journal.issues_append, ChannelKeeper.issues_arrival,
        Plan.issues_journalOf] at h
      rcases h with ⟨hforeign, rfl⟩ | ⟨p, hplan, rfl⟩
      · exact .arrived hcredits.denom hforeign hkeeper
      · rw [Plan.transport_of_resolve hr hplan]
        exact .named (names_of_resolve hr hplan)
  | rejected hledger hkeeper hevents =>
      exact ⟨[], by rw [hledger]; rfl, fun d h => (Journal.issues_nil h).elim⟩
  | @refunded _ packet data sender denom _ hfails hrefunds hposts hkeeper hevents =>
      refine ⟨_, hposts, fun d h => ?_⟩
      rw [refundPostings, Journal.issues_append, ChannelKeeper.issues_refundJournal,
        Plan.issues_journalOf] at h
      rcases h with ⟨haway, rfl⟩ | ⟨p, hplan, rfl⟩
      · exact .refunded hrefunds haway
      · have hresolve := Reversal.resolve_of_plan? hrefunds.denom hplan
        rw [Plan.transport_of_resolve hr hresolve]
        exact .named (names_of_resolve hr hresolve)
  | acknowledged hcommitted hdecoded => exact ⟨[], rfl, fun d h => (Journal.issues_nil h).elim⟩
  | refused _ error => exact ⟨[], rfl, fun d h => (Journal.issues_nil h).elim⟩

/-! ## Denominations that are not -/

/-- A token whose path starts with a hop is held as a voucher. -/
theorem isVoucher_of_away {hop : Hop} {path : String}
    (haway : senderIsSource hop path = false)
    (hdenom : (Trace.parse path).localDenom = .ok d) : d.isVoucher = true :=
  Trace.isVoucher_of_localDenom
    (isNative_of_receiverIsSource (senderIsSource_eq_false_iff.1 haway)) hdenom

/-- **A denomination of this chain that no entry names is not issued.** -/
theorem not_issuable_of_native {k l : ChannelKeeper} (hvoucher : d.isVoucher = false)
    (hplain : d.isPlain = true) (hnamed : ∀ name, ¬ m.Names name d) : ¬ m.Issuable k l d := by
  intro h
  cases h with
  | named hnames => exact hnamed _ hnames
  | @departed hop path hpath haway =>
      -- its path is its own text, which starts with no hop
      rw [ChannelKeeper.eq_text_of_fullPath hvoucher hpath,
        senderIsSource_of_plain hplain] at haway
      cases haway
  | arrived hdenom hforeign hkeeper =>
      rw [ChannelKeeper.localDenom_arrivalTrace hforeign] at hdenom
      cases hdenom
      rw [ChannelKeeper.voucherOf, Trace.isVoucher_voucher] at hvoucher
      cases hvoucher
  | refunded hrefunds haway =>
      rw [isVoucher_of_away haway hrefunds.denom] at hvoucher
      cases hvoucher

/-- The supply of what a step does not issue stays. -/
theorem supply_step (hr : m.registry.Valid) {q : Request} {reply : Reply}
    (hstep : m.Step s q reply t) (hd : ¬ m.Issuable s.keeper t.keeper d) :
    supply t.ledger d = supply s.ledger d := by
  obtain ⟨js, hposts, hissues⟩ := exists_journal_issuable hr hstep
  have hsupply := Journal.supply_post hposts d
  rw [Journal.issue_of_not_issues fun h => hd (hissues d h), Int.add_zero] at hsupply
  exact Int.ofNat.inj hsupply

/-- **Native supply is never created or destroyed.** Whatever is asked of a module and whatever
packets come in, the supply of a denomination of this chain stays what it is, unless some entry of
the registry names the denomination as its counterpart. -/
theorem native_supply_kept [LawfulLedger β] (m : TransferModule) {es : List Entry}
    (hentries : Registry.ofEntries es = .ok m.registry) (d : Denom) (hvoucher : d.isVoucher = false)
    (hplain : d.isPlain = true)
    (hnamed : ∀ name e, m.registry.find? name = some e → e.counterparty ≠ d.text)
    (s : Stage ChannelKeeper β) (qs : List Request) :
    supply (m.run s qs).ledger d = supply s.ledger d := by
  have hr := Registry.valid_ofEntries hentries
  have hno : ∀ name, ¬ m.Names name d := by
    intro name hnames
    have hcounterparty := hnames.counterparty
    cases hfind : m.registry.find? name with
    | none =>
        -- the entry of what is not registered names nothing
        rw [Registry.entry, hfind] at hcounterparty
        have hempty := Denom.isEmpty_text d
        rw [← hcounterparty] at hempty
        exact absurd hempty (by decide)
    | some e =>
        rw [Registry.entry_of_find? hfind] at hcounterparty
        exact hnamed name e hfind hcounterparty
  refine m.run_induction (P := fun t => supply t.ledger d = supply s.ledger d) rfl ?_
  intro t ht q _
  rw [supply_step hr (m.step_serve t q) (not_issuable_of_native hvoucher hplain hno)]
  exact ht

end TransferModule

namespace Sample

/-- A packet that pretends that some `rowan` left over the channel. -/
def impostor : Packet :=
  { packet with
    data := (PacketData.mk "transfer/channel-0/rowan" 5 (userText 1) (userText 2)).toBytes }

/-- A packet with some `rowan` of the other chain. -/
def namesake : Packet :=
  { packet with data := (PacketData.mk "rowan" 5 (userText 1) (userText 2)).toBytes }

/-- The message is sent, and the two packets come in. -/
def intrusion : List Request :=
  [opening, .transfer message, .receive impostor, .receive namesake]

/-- Nothing has `rowan` as its counterpart. -/
theorem counterparty_ne_rowan {name : String} {e : Entry} (h : desk.registry.find? name = some e) :
    e.counterparty ≠ rowan.text := by
  intro hcounterparty
  rw [← Registry.entry_of_find? h] at hcounterparty
  exact absurd (eq_xrowan_of_counterparty hcounterparty) (by decide)

end Sample

/-- The message is converted, one of the packets is rejected and the other one brings a voucher in:
twelve `xrowan` are created, and `rowan` is what it was. -/
theorem TransferModule.native_supply_kept_sample :
    supply (Sample.desk.run Sample.stage Sample.intrusion).ledger Sample.rowan = 5000000000 ∧
      supply (Sample.desk.run Sample.stage Sample.intrusion).ledger Sample.xrowan = 12 := by
  refine ⟨?_, by decide +kernel⟩
  rw [native_supply_kept Sample.desk Sample.ofEntries_entries Sample.rowan (by decide) (by decide)
    fun _ _ => Sample.counterparty_ne_rowan]
  decide +kernel

end Interchain
