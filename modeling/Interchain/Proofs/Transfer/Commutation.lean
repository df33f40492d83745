import Interchain.Proofs.Ledger.Holdings
import Interchain.Proofs.Transfer.Escrow
import Interchain.Proofs.Transfer.Supply

/-!
# Failed packets may be settled in any order

A refund draws on two accounts at most, the escrow account of its packet and that of the module,
and it gives to the sender. On a balanced ledger it goes through exactly if its mints and burns are
licensed and the two accounts have what is drawn (`exists_post_refundPostings_iff`). So, as long as
senders are outsiders to these accounts, a refund never makes another one possible, and what one
refund leaves is enough for the other in either order (`Settles.swap`). By induction on the
permutation, any order of settling failed packets leaves the same accounts (`SettlesAll.perm`,
`failures_commute`).
-/

set_option autoImplicit false

namespace Interchain

open Ledger

/-! ## Licenses -/

/-- Whether the module that mints or burns may do that. -/
def Posting.Licensed (permissions : String → ModulePermissions) : Posting → Prop
  | .pay _ _ _ => True
  | .mint name _ => (permissions name).minter = true
  | .burn name _ => (permissions name).burner = true

/-- All that was posted was licensed. -/
theorem Journal.licensed_of_post {β : Type} [Ledger β] [LawfulLedger β] {b c : β} {js : Journal}
    (h : post b js = .ok c) : ∀ j ∈ js, j.Licensed (permissions b) := by
  induction js generalizing b with
  | nil => exact fun _ hj => nomatch hj
  | cons j js ih =>
      obtain ⟨d, hd, hc⟩ := post_cons_eq_ok_iff.1 h
      have hpermissions : permissions d = permissions b := funext (Posting.permissions_post hd)
      have hcovered := (Posting.exists_post_iff j).1 ⟨d, hd⟩
      intro k hk
      rcases List.mem_cons.1 hk with rfl | hk
      · cases k with
        | pay source target coin => trivial
        | mint name coin => exact hcovered
        | burn name coin => exact hcovered.1
      · rw [← hpermissions]
        exact ih hc k hk

/-- What two journals add up to does not depend on their order. -/
theorem Journal.eq_of_post_swap {js ks : Journal} {v x y w z : LedgerView}
    (hjs : post v js = .ok x) (hks : post x ks = .ok y) (hks' : post v ks = .ok w)
    (hjs' : post w js = .ok z) : z = y := by
  apply LedgerView.eq_of_numbers
  · intro account d
    rw [balance_post hjs', balance_post hks', balance_post hks, balance_post hjs]
    omega
  · intro d
    rw [supply_post hjs', supply_post hks', supply_post hks, supply_post hjs]
    omega
  · intro name
    rw [permissions_post hjs', permissions_post hks', permissions_post hks, permissions_post hjs]

/-! ## What refunds give and draw -/

namespace TransferModule

/-- What the sender of a packet has after the refund, converted back if it was converted. -/
def granted (m : TransferModule) (packet : Packet) (data : PacketData) (denom : Denom) : Coin :=
  match Reversal.plan? m.registry packet data with
  | none => ⟨denom, data.amount⟩
  | some p => (p.exchange data.amount).released

/-- What the refund of a packet draws on an account: the token on the escrow account, and what it
is converted back into on that of the module. -/
def draw (m : TransferModule) (packet : Packet) (data : PacketData) (denom : Denom)
    (account : Address) (d : Denom) : Int :=
  (if senderIsSource packet.source data.denom then
    Coin.share ⟨denom, data.amount⟩ packet.source.escrow account d else 0) +
  match Reversal.plan? m.registry packet data with
  | none => 0
  | some p => (p.exchange data.amount).released.share custodian account d

variable {m : TransferModule} {packet : Packet} {data : PacketData} {sender account : Address}
  {denom d : Denom}

theorem draw_nonneg : 0 ≤ m.draw packet data denom account d := by
  rw [draw]
  apply Int.add_nonneg
  · split
    · exact Coin.share_nonneg _ _ _ _
    · exact Int.le_refl 0
  · cases Reversal.plan? m.registry packet data with
    | none => exact Int.le_refl 0
    | some p => exact Coin.share_nonneg _ _ _ _

/-- Nothing is drawn on other accounts. -/
theorem draw_of_ne (hescrow : account ≠ packet.source.escrow) (hcustodian : account ≠ custodian) :
    m.draw packet data denom account d = 0 := by
  rw [draw, Coin.share_of_ne hescrow]
  cases Reversal.plan? m.registry packet data with
  | none => simp
  | some p => simp [Coin.share_of_ne hcustodian]

/-- What is drawn on the escrow account is the token. -/
theorem draw_escrow (hside : senderIsSource packet.source data.denom = true)
    (hescrow : packet.source.escrow ≠ custodian) :
    m.draw packet data denom packet.source.escrow denom = data.amount := by
  have htoken : Coin.share ⟨denom, data.amount⟩ packet.source.escrow packet.source.escrow denom =
      data.amount := Coin.share_self ⟨denom, data.amount⟩ packet.source.escrow
  rw [draw, if_pos hside, htoken]
  cases Reversal.plan? m.registry packet data with
  | none => simp
  | some p => simp [Coin.share_of_ne hescrow]

/-- What is drawn on the account of the module is the unit. -/
theorem draw_custodian {p : Plan} (hplan : Reversal.plan? m.registry packet data = some p)
    (hescrow : packet.source.escrow ≠ custodian) :
    m.draw packet data denom custodian p.unit = (data.amount.restore p.po : Amount) := by
  have hunit : (p.exchange data.amount).released.share custodian custodian p.unit =
      (data.amount.restore p.po : Amount) :=
    Coin.share_self (p.exchange data.amount).released custodian
  rw [draw, hplan, Coin.share_of_ne hescrow.symm, ite_self, Int.zero_add]
  exact hunit

/-- **What a refund adds to a balance.** -/
theorem change_refundPostings (hr : m.registry.Valid)
    (hdenom : (Trace.parse data.denom).localDenom = .ok denom) :
    Journal.change (m.refundPostings packet data sender denom) account d =
      (m.granted packet data denom).share sender account d -
        m.draw packet data denom account d := by
  rw [refundPostings, Journal.change_append, ChannelKeeper.change_refundJournal, granted, draw]
  cases hplan : Reversal.plan? m.registry packet data with
  | none =>
      simp only [Plan.journalOf, Journal.change]
      omega
  | some p =>
      -- what the plan takes in is what was refunded
      have htransport := Plan.transport_of_resolve hr (Reversal.resolve_of_plan? hdenom hplan)
      have hburned : (p.exchange data.amount).burned = ⟨denom, data.amount⟩ := by
        rw [Plan.exchange, htransport]
      simp only [Plan.journalOf, Plan.change_journal, hburned]
      omega

/-- Whether an account is none of those that the refund of a packet draws on. -/
structure Outside (account : Address) (packet : Packet) : Prop where
  escrow : account ≠ packet.source.escrow
  custodian : account ≠ Interchain.custodian

section Posting

variable {β : Type} [Ledger β] [LawfulLedger β] {b c : β}

/-- A token is refunded if that is licensed and escrow has what was put into it. -/
theorem exists_post_refundJournal {source : Hop} {path : String} {coin : Coin}
    (hlicensed : ∀ j ∈ ChannelKeeper.refundJournal source path sender coin,
      j.Licensed (permissions b))
    (hheld : senderIsSource source path = true →
      coin.amount ≤ balance b source.escrow coin.denom) :
    ∃ c, Journal.post b (ChannelKeeper.refundJournal source path sender coin) = .ok c := by
  rw [ChannelKeeper.refundJournal] at hlicensed ⊢
  cases hside : senderIsSource source path with
  | true =>
      obtain ⟨c, hc⟩ := (Posting.exists_post_iff (.pay source.escrow sender coin)).2 (hheld hside)
      exact ⟨c, Journal.post_cons_eq_ok_iff.2 ⟨c, hc, rfl⟩⟩
  | false =>
      rw [hside] at hlicensed
      have hminter : (permissions b transferModule).minter = true :=
        hlicensed (.mint transferModule coin) (by simp [ChannelKeeper.issuance])
      exact ChannelKeeper.exists_post_issuance hminter sender coin

/-- **When a refund goes through.** -/
theorem exists_post_refundPostings_iff (hr : m.registry.Valid)
    (hdenom : (Trace.parse data.denom).localDenom = .ok denom) (hb : Balanced b)
    (hsender : Outside sender packet) (hescrow : packet.source.escrow ≠ custodian) :
    (∃ c, Journal.post b (m.refundPostings packet data sender denom) = .ok c) ↔
      (∀ j ∈ m.refundPostings packet data sender denom, j.Licensed (permissions b)) ∧
        ∀ account d, m.draw packet data denom account d ≤ balance b account d := by
  constructor
  · rintro ⟨c, hc⟩
    refine ⟨Journal.licensed_of_post hc, fun account d => ?_⟩
    have hbalance := Journal.balance_post hc account d
    rw [change_refundPostings hr hdenom] at hbalance
    by_cases haccount : account = sender
    · rw [haccount, draw_of_ne hsender.escrow hsender.custodian]
      exact Int.natCast_nonneg _
    · rw [Coin.share_of_ne haccount] at hbalance
      omega
  · rintro ⟨hlicensed, hdraw⟩
    have hlicensed := List.forall_mem_append.1 hlicensed
    obtain ⟨c, hc⟩ := exists_post_refundJournal hlicensed.1 fun hside => by
      have hle := hdraw packet.source.escrow denom
      rw [draw_escrow hside hescrow] at hle
      exact Int.ofNat_le.1 hle
    unfold refundPostings at hlicensed ⊢
    cases hplan : Reversal.plan? m.registry packet data with
    | none => exact ⟨c, Journal.post_append_eq_ok_iff.2 ⟨c, hc, rfl⟩⟩
    | some p =>
        have hresolve := Reversal.resolve_of_plan? hdenom hplan
        have htransport := Plan.transport_of_resolve hr hresolve
        have hne : p.unit ≠ p.transport := by
          rw [htransport]
          exact (Counterparts.of_resolve hr hresolve).ne
        rw [hplan] at hlicensed
        have hburner : (permissions c transferModule).burner = true := by
          rw [funext (Journal.permissions_post hc)]
          exact hlicensed.2 (.burn transferModule (p.exchange data.amount).burned)
            (by simp [Plan.journalOf, Plan.journal])
        -- the sender has the token, and the module kept the unit
        have hheld : data.amount ≤ balance c sender p.transport := by
          rw [htransport]
          exact ChannelKeeper.le_balance_of_refundJournal hc
        have hkept : data.amount.restore p.po ≤ balance c custodian p.unit := by
          have hle := hdraw custodian p.unit
          have hbalance := Journal.balance_post hc custodian p.unit
          rw [draw_custodian hplan hescrow] at hle
          rw [ChannelKeeper.change_refundJournal,
            Coin.share_of_denom_ne (htransport ▸ hne), Coin.share_of_denom_ne (htransport ▸ hne),
            ite_self] at hbalance
          apply Int.ofNat_le.1
          omega
        obtain ⟨e, he⟩ := (Plan.exists_post_journal_iff hne hburner).2
          ⟨hheld, Nat.le_trans hheld ((hb.post hc).balance_le_supply sender p.transport), hkept⟩
        exact ⟨e, Journal.post_append_eq_ok_iff.2 ⟨c, hc, he⟩⟩

end Posting

/-! ## Two refunds -/

section Swap

variable {p q : Packet} {pdata qdata : PacketData} {psender qsender : Address}
  {pdenom qdenom : Denom} {x y z : LedgerView}

/-- What two refunds draw together was there before the first, if this one gives nothing to the
accounts that the second draws on. -/
theorem draw_add_draw_le (hr : m.registry.Valid)
    (hp : (Trace.parse pdata.denom).localDenom = .ok pdenom) (hpp : Outside psender p)
    (hpq : Outside psender q)
    (hfirst : Journal.post x (m.refundPostings p pdata psender pdenom) = .ok y)
    (hdraw : ∀ account d, m.draw q qdata qdenom account d ≤ balance y account d)
    (account : Address) (d : Denom) :
    m.draw p pdata pdenom account d + m.draw q qdata qdenom account d ≤ balance x account d := by
  have hle := hdraw account d
  have hbalance := Journal.balance_post hfirst account d
  rw [change_refundPostings hr hp] at hbalance
  by_cases haccount : account = psender
  · rw [haccount, draw_of_ne hpp.escrow hpp.custodian, draw_of_ne hpq.escrow hpq.custodian]
    exact Int.natCast_nonneg _
  · rw [Coin.share_of_ne haccount] at hbalance
    omega

/-- **What two refunds post may be posted in either order.** -/
theorem exists_post_swap (hr : m.registry.Valid) (hx : Balanced x)
    (hp : (Trace.parse pdata.denom).localDenom = .ok pdenom)
    (hq : (Trace.parse qdata.denom).localDenom = .ok qdenom) (hpp : Outside psender p)
    (hpq : Outside psender q) (hqq : Outside qsender q)
    (hpescrow : p.source.escrow ≠ custodian) (hqescrow : q.source.escrow ≠ custodian)
    (hfirst : Journal.post x (m.refundPostings p pdata psender pdenom) = .ok y)
    (hsecond : Journal.post y (m.refundPostings q qdata qsender qdenom) = .ok z) :
    ∃ v, Journal.post x (m.refundPostings q qdata qsender qdenom) = .ok v ∧
      Journal.post v (m.refundPostings p pdata psender pdenom) = .ok z := by
  obtain ⟨hplicensed, -⟩ := (exists_post_refundPostings_iff hr hp hx hpp hpescrow).1 ⟨y, hfirst⟩
  obtain ⟨hqlicensed, hqdraw⟩ :=
    (exists_post_refundPostings_iff hr hq (hx.post hfirst) hqq hqescrow).1 ⟨z, hsecond⟩
  have hboth := draw_add_draw_le hr hp hpp hpq hfirst hqdraw
  obtain ⟨v, hv⟩ := (exists_post_refundPostings_iff hr hq hx hqq hqescrow).2 (by
    refine ⟨?_, fun account d => ?_⟩
    · rw [← funext (Journal.permissions_post hfirst)]
      exact hqlicensed
    · have hle := hboth account d
      have hnonneg : 0 ≤ m.draw p pdata pdenom account d := draw_nonneg
      omega)
  obtain ⟨w, hw⟩ := (exists_post_refundPostings_iff hr hp (hx.post hv) hpp hpescrow).2 (by
    refine ⟨?_, fun account d => ?_⟩
    · rw [funext (Journal.permissions_post hv)]
      exact hplicensed
    · -- the second refund draws what it draws, and what it gives only adds
      have hle := hboth account d
      have hbalance := Journal.balance_post hv account d
      rw [change_refundPostings hr hq] at hbalance
      have hgranted := Coin.share_nonneg (m.granted q qdata qdenom) qsender account d
      omega)
  refine ⟨v, hv, ?_⟩
  rw [← Journal.eq_of_post_swap hfirst hsecond hv hw]
  exact hw

end Swap

/-- The keeper of a stage, and what the ledger shows. -/
structure Accounts where
  keeper : ChannelKeeper
  ledger : LedgerView

/-- The accounts of a stage. -/
def accounts {β : Type} [Ledger β] (s : Stage ChannelKeeper β) : Accounts :=
  ⟨s.keeper, view s.ledger⟩

/-- Whether a request has a failed packet refunded, and what that leaves. -/
inductive Settles (m : TransferModule) (x : Accounts) (q : Request) (y : Accounts) : Prop where
  | refund {packet : Packet} {data : PacketData} {sender : Address} {denom : Denom}
      (fails : q.failing = some packet) (refunds : Refunds x.keeper packet data sender denom)
      (posts : Journal.post x.ledger (m.refundPostings packet data sender denom) = .ok y.ledger)
      (keeper : y.keeper = x.keeper.deleteCommitment packet.key)

/-- Whether the refund of a packet goes to an outsider to the account of the module and to the
escrow accounts of the packet and of another one, which are different accounts. -/
structure Apart (p q : Packet) : Prop where
  escrow : p.source.escrow ≠ custodian
  sender : ∀ data account, p.decodeData = .ok data → Address.parse data.sender = .ok account →
    Outside account p ∧ Outside account q

/-- Whether that holds of all failed packets that requests are about. -/
def Strangers (qs : List Request) : Prop :=
  ∀ a ∈ qs, ∀ b ∈ qs, ∀ p q, a.failing = some p → b.failing = some q → Apart p q

theorem deleteCommitment_comm (k : ChannelKeeper) (a b : PacketKey) :
    (k.deleteCommitment a).deleteCommitment b = (k.deleteCommitment b).deleteCommitment a := by
  have herase : (k.commitments.erase a).erase b = (k.commitments.erase b).erase a := by
    apply FiniteMap.ext
    intro key
    simp only [FiniteMap.get?_erase]
    split
    · split
      · rfl
      · rfl
    · rfl
  show { k with commitments := (k.commitments.erase a).erase b } = _
  rw [herase]
  rfl

/-- A packet that is committed after another was settled is a different one, and was committed
before. -/
theorem Refunds.of_deleteCommitment {k : ChannelKeeper} {key : PacketKey}
    (h : Refunds (k.deleteCommitment key) packet data sender denom) :
    packet.key ≠ key ∧ Refunds k packet data sender denom := by
  obtain ⟨hkey, hcommitted⟩ := ChannelKeeper.hasCommitment_deleteCommitment.1 h.committed
  exact ⟨hkey, hcommitted, h.decoded, h.sender, h.denom⟩

theorem Refunds.deleteCommitment {k : ChannelKeeper} {key : PacketKey}
    (h : Refunds k packet data sender denom) (hkey : packet.key ≠ key) :
    Refunds (k.deleteCommitment key) packet data sender denom where
  committed := ChannelKeeper.hasCommitment_deleteCommitment.2 ⟨hkey, h.committed⟩
  decoded := h.decoded
  sender := h.sender
  denom := h.denom

/-- **Two refunds go through in either order, and lead to the same accounts.** -/
theorem Settles.swap (hr : m.registry.Valid) {x y z : Accounts} {a b : Request}
    (hx : Balanced x.ledger) (hstrangers : Strangers [a, b]) (hfirst : m.Settles x a y)
    (hsecond : m.Settles y b z) : ∃ y', m.Settles x b y' ∧ m.Settles y' a z := by
  obtain @⟨p, pdata, psender, pdenom, hp, hprefunds, hpposts, hpkeeper⟩ := hfirst
  obtain @⟨q, qdata, qsender, qdenom, hq, hqrefunds, hqposts, hqkeeper⟩ := hsecond
  rw [hpkeeper] at hqrefunds
  obtain ⟨hkey, hqrefunds⟩ := hqrefunds.of_deleteCommitment
  have hpq : Apart p q := hstrangers a (by simp) b (by simp) p q hp hq
  have hqp : Apart q p := hstrangers b (by simp) a (by simp) q p hq hp
  obtain ⟨hpp, hpq'⟩ := hpq.sender _ _ hprefunds.decoded hprefunds.sender
  obtain ⟨hqq, -⟩ := hqp.sender _ _ hqrefunds.decoded hqrefunds.sender
  obtain ⟨v, hv, hz⟩ := exists_post_swap hr hx hprefunds.denom hqrefunds.denom hpp hpq' hqq
    hpq.escrow hqp.escrow hpposts hqposts
  refine ⟨⟨x.keeper.deleteCommitment q.key, v⟩, .refund hq hqrefunds hv rfl,
    .refund hp (hprefunds.deleteCommitment hkey.symm) hz ?_⟩
  rw [hqkeeper, hpkeeper, deleteCommitment_comm]

/-! ## Any number of refunds -/

/-- Whether requests have failed packets refunded one after the other, and what that leaves. -/
inductive SettlesAll (m : TransferModule) : Accounts → List Request → Accounts → Prop where
  | nil (x : Accounts) : SettlesAll m x [] x
  | cons {x y z : Accounts} {q : Request} {qs : List Request} (first : m.Settles x q y)
      (rest : SettlesAll m y qs z) : SettlesAll m x (q :: qs) z

theorem Settles.balanced {x y : Accounts} {q : Request} (h : m.Settles x q y)
    (hx : Balanced x.ledger) : Balanced y.ledger := by
  obtain ⟨-, -, hposts, -⟩ := h
  exact hx.post hposts

theorem Strangers.of_subset {qs rs : List Request} (h : Strangers qs) (hsub : rs ⊆ qs) :
    Strangers rs :=
  fun a ha b hb => h a (hsub ha) b (hsub hb)

/-- **Refunds go through in any order, and lead to the same accounts.** -/
theorem SettlesAll.perm (hr : m.registry.Valid) {qs rs : List Request} (hperm : qs.Perm rs) :
    ∀ {x z : Accounts}, Balanced x.ledger → Strangers qs → m.SettlesAll x qs z →
      m.SettlesAll x rs z := by
  induction hperm with
  | nil => exact fun _ _ h => h
  | cons q hperm ih =>
      intro x z hx hstrangers h
      cases h with
      | cons hfirst hrest =>
          have hstrangers := hstrangers.of_subset (List.subset_cons_self _ _)
          exact .cons hfirst (ih (hfirst.balanced hx) hstrangers hrest)
  | swap a b qs =>
      intro x z hx hstrangers h
      cases h with
      | cons hfirst hrest =>
          cases hrest with
          | cons hsecond hrest =>
              have hpair : Strangers [b, a] := hstrangers.of_subset (by simp)
              obtain ⟨y, hfirst', hsecond'⟩ := hfirst.swap hr hx hpair hsecond
              exact .cons hfirst' (.cons hsecond' hrest)
  | trans hperm _ ih ih' =>
      intro x z hx hstrangers h
      exact ih' hx (hstrangers.of_subset hperm.symm.subset) (ih hx hstrangers h)

/-! ## Requests that are served -/

section Served

variable {β : Type} [Ledger β] {s t : Stage ChannelKeeper β} {q : Request}
  {outcome : Option ReversalOutcome}

/-- A failed packet that was settled was refunded. -/
theorem settles_of_step (hq : q.failing = some packet) (hstep : m.Step s q (.settled outcome) t) :
    m.Settles (accounts s) q (accounts t) := by
  cases hstep with
  | refunded hfails hrefunds hposts hkeeper hevents => exact .refund hfails hrefunds hposts hkeeper
  | acknowledged hcommitted hdecoded => cases hq

/-- What is settled for a failed packet does not depend on the stage. -/
theorem outcome_unique {s' t' : Stage ChannelKeeper β} {outcome' : Option ReversalOutcome}
    (hq : q.failing = some packet) (h : m.Step s q (.settled outcome) t)
    (h' : m.Step s' q (.settled outcome') t') : outcome = outcome' := by
  cases h with
  | acknowledged hcommitted hdecoded => cases hq
  | refunded hfails hrefunds hposts hkeeper hevents =>
      cases h' with
      | acknowledged hcommitted hdecoded => cases hq
      | refunded hfails' hrefunds' hposts' hkeeper' hevents' =>
          cases hfails.symm.trans hfails'
          obtain ⟨rfl, -, -⟩ := hrefunds.unique hrefunds'
          rfl

/-- Whether a request had a failed packet settled. -/
def Served.Resolves (e : Served β) : Prop :=
  ∃ p outcome, e.request.failing = some p ∧ e.reply = .settled outcome

theorem resolves_record (hq : q.failing = some packet) (h : (m.serve s q).1 = .settled outcome) :
    (m.record s q).Resolves :=
  ⟨packet, outcome, hq, h⟩

variable [LawfulLedger β]

/-- **What can be refunded is settled.** -/
theorem serve_of_settles {y : Accounts} (h : m.Settles (accounts s) q y) :
    (∃ outcome, (m.serve s q).1 = .settled outcome) ∧ accounts (m.serve s q).2 = y := by
  obtain ⟨keeper, ledger⟩ := y
  obtain ⟨hfails, hrefunds, hposts, hkeeper⟩ := h
  obtain ⟨t, hserve, hlanded⟩ := exists_serve_of_covered (.refund hfails hrefunds) ⟨_, hposts⟩
  have hledger := Except.ok.inj (hlanded.ledger.symm.trans hposts)
  rw [hserve]
  refine ⟨⟨_, rfl⟩, ?_⟩
  rw [accounts, hlanded.keeper, hledger]
  cases hkeeper
  rfl

/-- What is in a history is a step. -/
theorem step_of_mem_history {qs : List Request} {e : Served β} (he : e ∈ m.history s qs) :
    m.Step e.before e.request e.reply e.after := by
  obtain ⟨earlier, q, rfl⟩ := exists_eq_record_of_mem_history he
  exact m.step_serve (m.run s earlier) q

theorem settlesAll_of_history {qs : List Request} (h : ∀ e ∈ m.history s qs, e.Resolves) :
    m.SettlesAll (accounts s) qs (accounts (m.run s qs)) := by
  induction qs generalizing s with
  | nil => exact .nil _
  | cons q qs ih =>
      obtain ⟨p, outcome, hq, hreply⟩ := h _ List.mem_cons_self
      have hstep := m.step_serve s q
      have hreply : (m.serve s q).1 = .settled outcome := hreply
      rw [hreply] at hstep
      exact .cons (settles_of_step hq hstep) (ih fun e he => h e (List.mem_cons_of_mem _ he))

/-- **What can be refunded one after the other is settled in a run.** -/
theorem history_of_settlesAll {qs : List Request} {z : Accounts}
    (h : m.SettlesAll (accounts s) qs z) :
    (∀ e ∈ m.history s qs, e.Resolves) ∧ accounts (m.run s qs) = z := by
  induction qs generalizing s with
  | nil =>
      cases h
      exact ⟨by simp [history], rfl⟩
  | cons q qs ih =>
      cases h with
      | cons hfirst hrest =>
          obtain ⟨⟨outcome, hreply⟩, rfl⟩ := serve_of_settles hfirst
          obtain ⟨hfails, -, -, -⟩ := hfirst
          obtain ⟨hlater, hrun⟩ := ih hrest
          refine ⟨fun e he => ?_, hrun⟩
          rcases List.mem_cons.1 he with rfl | he
          · exact resolves_record hfails hreply
          · exact hlater e he

end Served

/-- **Failure callbacks commute.** Let the ledger be balanced, and let refunds go to outsiders. If
two failed packets are settled one after the other, they are also settled in the other order, each
with the same outcome, and the keeper and what the ledger shows are the same in the end. So the
requests that have any failed packets settled may be put in any order. -/
theorem failures_commute {β : Type} [Ledger β] [LawfulLedger β] (m : TransferModule)
    (hr : m.registry.Valid) (s : Stage ChannelKeeper β) (hs : Balanced s.ledger) :
    (∀ a b p q, a.failing = some p → b.failing = some q → Strangers [a, b] →
      ∀ outcome outcome', (m.serve s a).1 = .settled outcome →
        (m.serve (m.serve s a).2 b).1 = .settled outcome' →
          (m.serve s b).1 = .settled outcome' ∧
            (m.serve (m.serve s b).2 a).1 = .settled outcome ∧
            (m.run s [b, a]).keeper = (m.run s [a, b]).keeper ∧
            view (m.run s [b, a]).ledger = view (m.run s [a, b]).ledger) ∧
      ∀ qs rs : List Request, qs.Perm rs → Strangers qs →
        (∀ e ∈ m.history s qs, e.Resolves) →
          (∀ f ∈ m.history s rs, ∃ e ∈ m.history s qs, e.request = f.request ∧ e.reply = f.reply) ∧
            (m.run s rs).keeper = (m.run s qs).keeper ∧
            view (m.run s rs).ledger = view (m.run s qs).ledger := by
  refine ⟨?_, ?_⟩
  · intro a b p q hp hq hstrangers outcome outcome' ha hb
    have hfirst := m.step_serve s a
    have hsecond := m.step_serve (m.serve s a).2 b
    rw [ha] at hfirst
    rw [hb] at hsecond
    obtain ⟨y, hy, hz⟩ := (settles_of_step hp hfirst).swap hr hs hstrangers
      (settles_of_step hq hsecond)
    obtain ⟨⟨o', hreply⟩, rfl⟩ := serve_of_settles hy
    obtain ⟨⟨o, hreply'⟩, hend⟩ := serve_of_settles hz
    have hstep := m.step_serve s b
    have hstep' := m.step_serve (m.serve s b).2 a
    rw [hreply] at hstep
    rw [hreply'] at hstep'
    obtain rfl := outcome_unique hq hsecond hstep
    obtain rfl := outcome_unique hp hfirst hstep'
    exact ⟨hreply, hreply', congrArg Accounts.keeper hend, congrArg Accounts.ledger hend⟩
  · intro qs rs hperm hstrangers hqs
    obtain ⟨hrs, hrun⟩ := history_of_settlesAll
      ((settlesAll_of_history hqs).perm hr hperm hs hstrangers)
    refine ⟨fun f hf => ?_, congrArg Accounts.keeper hrun, congrArg Accounts.ledger hrun⟩
    -- the same request was served in the other order too
    have hmem : f.request ∈ (m.history s qs).map Served.request := by
      rw [map_request_history, hperm.mem_iff, ← map_request_history (m := m) s rs]
      exact List.mem_map_of_mem hf
    obtain ⟨e, he, hrequest⟩ := List.mem_map.1 hmem
    obtain ⟨p, outcome, hp, hreply⟩ := hqs e he
    obtain ⟨_, outcome', -, hreply'⟩ := hrs f hf
    have hstep := step_of_mem_history he
    have hstep' := step_of_mem_history hf
    rw [hreply] at hstep
    rw [hreply', ← hrequest] at hstep'
    refine ⟨e, he, hrequest, ?_⟩
    rw [hreply, hreply', outcome_unique hp hstep hstep']

end TransferModule

namespace Sample

/-- The packet of the second of two messages. -/
def second : Packet :=
  { packet with sequence := 2 }

/-- The stage after the message was sent twice. -/
def twice : Stage ChannelKeeper MemoryLedger :=
  desk.run stage [opening, .transfer message, .transfer message]

theorem balanced_twice : Balanced twice.ledger :=
  (reachable_stage.run desk [opening, .transfer message, .transfer message]).consistent.balanced

/-- The first packet times out, and the other chain rejects the second one. -/
def failures : List Request :=
  [.timeout packet, .acknowledge second (.error "rejected")]

/-- Both refunds are converted back. -/
theorem settled_failures :
    (desk.serve twice (.timeout packet)).1 =
        .settled (some (.reversed ⟨xrowan, 12⟩ ⟨rowan, 1200000000⟩)) ∧
      (desk.serve (desk.serve twice (.timeout packet)).2
          (.acknowledge second (.error "rejected"))).1 =
        .settled (some (.reversed ⟨xrowan, 12⟩ ⟨rowan, 1200000000⟩)) := by
  decide +kernel

theorem strangers_failures : TransferModule.Strangers failures := by
  have hpacket : ∀ q ∈ failures, ∀ p, q.failing = some p →
      p.source = hop ∧ p.decodeData = .ok data := by
    intro q hq p hp
    simp only [failures, List.mem_cons, List.not_mem_nil, or_false] at hq
    rcases hq with rfl | rfl
    · cases hp
      exact ⟨rfl, decodeData_packet⟩
    · cases hp
      exact ⟨rfl, decodeData_packet⟩
  have haddresses : hop.escrow ≠ Interchain.custodian ∧ user 1 ≠ hop.escrow ∧
      user 1 ≠ Interchain.custodian := by
    decide +kernel
  obtain ⟨hescrow, houtside, hcustodian⟩ := haddresses
  intro a ha b hb p q hp hq
  obtain ⟨hp, hdata⟩ := hpacket a ha p hp
  obtain ⟨hq, -⟩ := hpacket b hb q hq
  refine ⟨hp ▸ hescrow, fun data' account hdecoded hparse => ?_⟩
  cases hdata.symm.trans hdecoded
  cases (Address.parse_text (user 1)).symm.trans hparse
  exact ⟨⟨hp ▸ houtside, hcustodian⟩, hq ▸ houtside, hcustodian⟩

end Sample

/-- The two packets share their sender, their escrow account and the unit that is given back, and
they may be settled in either order. -/
theorem TransferModule.failures_commute_sample :
    (Sample.desk.serve Sample.twice (.acknowledge Sample.second (.error "rejected"))).1 =
        .settled (some (.reversed ⟨Sample.xrowan, 12⟩ ⟨Sample.rowan, 1200000000⟩)) ∧
      view (Sample.desk.run Sample.twice Sample.failures.reverse).ledger =
        view (Sample.desk.run Sample.twice Sample.failures).ledger := by
  obtain ⟨hpair, hany⟩ := failures_commute Sample.desk
    (Registry.valid_ofEntries Sample.ofEntries_entries) Sample.twice Sample.balanced_twice
  obtain ⟨hfirst, hsecond⟩ := Sample.settled_failures
  obtain ⟨hreply, -⟩ := hpair (.timeout Sample.packet)
    (.acknowledge Sample.second (.error "rejected")) Sample.packet Sample.second rfl rfl
    Sample.strangers_failures _ _ hfirst hsecond
  refine ⟨hreply, (hany Sample.failures Sample.failures.reverse
    Sample.failures.reverse_perm.symm Sample.strangers_failures fun e he => ?_).2.2⟩
  simp only [Sample.failures, history, List.mem_cons, List.not_mem_nil, or_false] at he
  rcases he with rfl | rfl
  · exact resolves_record rfl hfirst
  · exact resolves_record rfl hsecond

end Interchain
