import Interchain.Proofs.Transfer.Counterparts
import Interchain.Proofs.Transfer.Module

/-!
# What journals come to

On its way a coin passes through the account of the module, and a converted one through that of its
sender too. What a journal comes to does not show that. For each journal of the keeper and of the
module, `change_*` tells what it adds to a balance and `issue_*` what it adds to a supply, as sums
over the accounts at which coins stay. A whole shipment comes to what the sender gives, what the
module keeps and what goes into escrow (`Shipment.change_journal`), and a packet that is credited to
what comes out of escrow and what the receiver gets, before or after it was exchanged
(`TransferModule.change_creditJournal_of_none`, `TransferModule.change_creditJournal_of_some`).
-/

set_option autoImplicit false

namespace Interchain

/-- The escrow account of a hop. -/
def Hop.escrow (h : Hop) : Address :=
  .escrow h.port h.channel

/-! ## The keeper -/

namespace ChannelKeeper

/-- A departure takes the token from the sender, and one from this side goes into escrow. -/
theorem change_departure (source : Hop) (path : String) (sender account : Address) (token : Coin)
    (d : Denom) :
    Journal.change (departure source path sender token) account d =
      (if senderIsSource source path then token.share source.escrow account d else 0) -
        token.share sender account d := by
  rw [departure]
  split
  · simp only [Journal.change, Posting.change, Hop.escrow]
    omega
  · simp only [Journal.change, Posting.change, ofModule_transferModule]
    omega

/-- A token from the other side is destroyed. -/
theorem issue_departure (source : Hop) (path : String) (sender : Address) (token : Coin)
    (d : Denom) :
    Journal.issue (departure source path sender token) d =
      if senderIsSource source path then 0 else -token.worth d := by
  rw [departure]
  split
  · rfl
  · simp [Journal.issue, Posting.issue]

/-- A refund gives the coin to the sender and draws on escrow if the token is from this side. -/
theorem change_refundJournal (source : Hop) (path : String) (sender account : Address)
    (coin : Coin) (d : Denom) :
    Journal.change (refundJournal source path sender coin) account d =
      coin.share sender account d -
        if senderIsSource source path then coin.share source.escrow account d else 0 := by
  rw [refundJournal_eq_inverse, Journal.change_inverse, change_departure]
  omega

/-- An arrival gives the coin to the receiver and draws on escrow if the token comes home. -/
theorem change_arrival (packet : Packet) (path : String) (receiver account : Address) (coin : Coin)
    (d : Denom) :
    Journal.change (arrival packet path receiver coin) account d =
      coin.share receiver account d -
        if receiverIsSource packet.source path then
          coin.share packet.destination.escrow account d else 0 := by
  rw [arrival]
  split
  · simp only [Journal.change, Posting.change, Hop.escrow, Packet.destination]
    omega
  · simp only [issuance, Journal.change, Posting.change, ofModule_transferModule]
    omega

/-- A token from the other side is created. -/
theorem issue_arrival (packet : Packet) (path : String) (receiver : Address) (coin : Coin)
    (d : Denom) :
    Journal.issue (arrival packet path receiver coin) d =
      if receiverIsSource packet.source path then 0 else coin.worth d := by
  rw [arrival]
  split
  · rfl
  · simp [issuance, Journal.issue, Posting.issue]

end ChannelKeeper

/-! ## Conversions -/

/-- A plan gives the unit for the counterpart, and draws the unit on the account of the module. -/
theorem Plan.change_journal (p : Plan) (sender account : Address) (a : Amount) (d : Denom) :
    Journal.change (p.journal sender a) account d =
      (p.exchange a).released.share sender account d -
        (p.exchange a).burned.share sender account d -
          (p.exchange a).released.share custodian account d := by
  simp only [journal, Journal.change, Posting.change, ofModule_transferModule]
  omega

/-- A plan destroys the counterpart. -/
theorem Plan.issue_journal (p : Plan) (sender : Address) (a : Amount) (d : Denom) :
    Journal.issue (p.journal sender a) d = -(p.exchange a).burned.worth d := by
  simp [journal, Journal.issue, Posting.issue]

/-- Of what a plan exchanges for someone else, an account gets nothing, and that of the module gives
out the unit. -/
theorem Plan.change_journalOf_of_ne {holder account : Address} (h : account ≠ holder)
    (plan? : Option Plan) (a : Amount) (d : Denom) :
    Journal.change (journalOf plan? holder a) account d =
      if account = custodian then
        -plan?.elim 0 fun p => (p.exchange a).released.worth d
      else 0 := by
  cases plan? with
  | none => simp [journalOf, Journal.change]
  | some p =>
      rw [journalOf, change_journal, Coin.share_of_ne h, Coin.share_of_ne h, Coin.share_eq]
      split
      · simp
      · rfl

/-- A conversion takes the unit into the account of the module and gives the counterpart for it. -/
theorem Outbound.change_conversion (sender account : Address) (deducted converted : Coin)
    (d : Denom) :
    Journal.change (conversion sender deducted converted) account d =
      deducted.share custodian account d - deducted.share sender account d +
        converted.share sender account d := by
  simp only [conversion, Journal.change, Posting.change, ofModule_transferModule]
  omega

/-- A conversion creates the counterpart. -/
theorem Outbound.issue_conversion (sender : Address) (deducted converted : Coin) (d : Denom) :
    Journal.issue (conversion sender deducted converted) d = converted.worth d := by
  simp [conversion, Journal.issue, Posting.issue]

/-! ## Shipments -/

namespace Shipment

variable (sh : Shipment) (message : TransferMessage) (account : Address) (d : Denom)

/-- What the sender of a shipment gives: the token, or what was converted into it. -/
def given : Coin :=
  sh.deducted.getD sh.token

/-- **What a shipment adds to a balance.** A converted token is kept by the module, and a token from
this side goes into escrow. -/
theorem change_journal :
    Journal.change (sh.journal message) account d =
      sh.deducted.elim 0 (fun coin => coin.share custodian account d) -
        sh.given.share sh.sender account d +
          if senderIsSource ⟨message.sourcePort, message.sourceChannel⟩ sh.path then
            sh.token.share (Hop.mk message.sourcePort message.sourceChannel).escrow account d
          else 0 := by
  rw [journal, Journal.change_append, ChannelKeeper.change_departure, preparation, given]
  cases sh.deducted with
  | none =>
      simp only [Journal.change, Option.elim_none, Option.getD_none]
      omega
  | some deducted =>
      -- the sender gives away the counterpart that it was given
      simp only [Outbound.change_conversion, Option.elim_some, Option.getD_some]
      omega

/-- **What a shipment adds to a supply.** -/
theorem issue_journal :
    Journal.issue (sh.journal message) d =
      sh.deducted.elim 0 (fun _ => sh.token.worth d) -
        if senderIsSource ⟨message.sourcePort, message.sourceChannel⟩ sh.path then 0
        else sh.token.worth d := by
  have hdeparture : Journal.issue (ChannelKeeper.departure
      ⟨message.sourcePort, message.sourceChannel⟩ sh.path sh.sender sh.token) d =
        -if senderIsSource ⟨message.sourcePort, message.sourceChannel⟩ sh.path then 0
        else sh.token.worth d := by
    rw [ChannelKeeper.issue_departure]
    split
    · rfl
    · rfl
  rw [journal, Journal.issue_append, hdeparture, preparation]
  cases sh.deducted with
  | none =>
      simp only [Journal.issue, Option.elim_none]
      omega
  | some deducted =>
      simp only [Outbound.issue_conversion, Option.elim_some]
      omega

end Shipment

/-! ## Packets that are credited -/

namespace TransferModule

variable {m : TransferModule} {packet : Packet} {path : String} {receiver account : Address}
  {coin : Coin} {p : Plan} {d : Denom}

/-- Without a plan the receiver gets the coin. -/
theorem change_creditJournal_of_none (h : Plan.resolve m.registry coin.denom = none) :
    Journal.change (m.creditJournal packet path receiver coin) account d =
      coin.share receiver account d -
        if receiverIsSource packet.source path then coin.share packet.destination.escrow account d
        else 0 := by
  rw [creditJournal, Journal.change_append, ChannelKeeper.change_arrival, h]
  exact Int.add_zero _

/-- With a plan the receiver gets the unit from the module. -/
theorem change_creditJournal_of_some (hr : m.registry.Valid)
    (h : Plan.resolve m.registry coin.denom = some p) :
    Journal.change (m.creditJournal packet path receiver coin) account d =
      (p.exchange coin.amount).released.share receiver account d -
        (p.exchange coin.amount).released.share custodian account d -
          if receiverIsSource packet.source path then
            coin.share packet.destination.escrow account d
          else 0 := by
  -- what the plan takes in is what arrived
  have hburned : (p.exchange coin.amount).burned = coin := by
    rw [Plan.exchange, Plan.transport_of_resolve hr h]
  rw [creditJournal, Journal.change_append, ChannelKeeper.change_arrival, h, Plan.journalOf,
    Plan.change_journal, hburned]
  omega

/-- What arrives from the other side is created, and what is exchanged is destroyed. -/
theorem issue_creditJournal (hr : m.registry.Valid) :
    Journal.issue (m.creditJournal packet path receiver coin) d =
      (if receiverIsSource packet.source path then 0 else coin.worth d) -
        if (Plan.resolve m.registry coin.denom).isSome then coin.worth d else 0 := by
  rw [creditJournal, Journal.issue_append, ChannelKeeper.issue_arrival]
  cases hplan : Plan.resolve m.registry coin.denom with
  | none => simp [Plan.journalOf, Journal.issue]
  | some p =>
      have hburned : (p.exchange coin.amount).burned = coin := by
        rw [Plan.exchange, Plan.transport_of_resolve hr hplan]
      rw [Plan.journalOf, Plan.issue_journal, hburned]
      rfl

end TransferModule

end Interchain
