import Interchain.Proofs.Transfer.Run
import Interchain.Proofs.Transport.Recording

/-!
# Rehearsals

A rehearsal runs the module over a keeper: messages are sent, and the packets that the keeper
commits for them are settled later, each called by its number. With the recording keeper it comes
to the same as with the keeper of channels (`recording_rehearses`), as long as all messages fit one
open channel and all tokens are from this chain. The ledgers are equal at any time, the
replies are the same, and the same numbers are committed and settled. This is proved by a step
lemma for each sort of order (`Concurs.transfer`, `Concurs.settle`) and by induction on the orders.
-/

set_option autoImplicit false

namespace Interchain

/-- What is asked for in a rehearsal. A callback is on the packet that was committed under a
number. -/
inductive Order where
  | transfer (message : TransferMessage)
  | acknowledge (sequence : UInt64) (ack : Acknowledgement)
  | timeout (sequence : UInt64)
deriving DecidableEq

/-- Whether the message of an order, if it is one for a transfer, fits. -/
def Order.Fits (source : Hop) : Order → Prop
  | .transfer message => message.Fits source
  | .acknowledge _ _ => True
  | .timeout _ => True

/-- Whether all registered counterparts are from this chain. -/
def Registry.NativeCounterparts (r : Registry) : Prop :=
  ∀ name e c, r.find? name = some e → Denom.parse (r.entry e.counterparty).denom = .ok c →
    c.IsNative

/-- How far a rehearsal has come. -/
structure Rehearsal (κ β : Type) where
  stage : Stage κ β
  /-- The packets that were committed, the last one first. -/
  posted : List Packet := []
  /-- The replies to the orders; there is none if no packet was committed under the number. -/
  replies : List (Option Reply) := []
  /-- The numbers of the packets that were settled. -/
  settled : List UInt64 := []

namespace Rehearsal

section Runs

variable {κ β : Type} [Transport κ] [Ledger β]

/-- A callback on the packet under a number. -/
def settle (h : Rehearsal κ β) (sequence : UInt64)
    (callback : Packet → Action κ β (Option ReversalOutcome)) : Rehearsal κ β :=
  match h.posted.find? fun packet => packet.sequence = sequence with
  | none => { h with replies := h.replies ++ [none] }
  | some packet =>
      match callback packet h.stage with
      | .ok outcome t =>
          { h with
            stage := t
            replies := h.replies ++ [some (.settled outcome)]
            settled := h.settled ++ [sequence] }
      | .error e t => { h with stage := t, replies := h.replies ++ [some (.refused e)] }

/-- A message. What is committed for it is told by `filed`, which looks up a number in a keeper. -/
def transfer (m : TransferModule) (filed : κ → UInt64 → Option Packet) (h : Rehearsal κ β)
    (message : TransferMessage) : Rehearsal κ β :=
  match m.transfer message h.stage with
  | .ok response t =>
      { h with
        stage := t
        posted := (filed t.keeper response.sequence).toList ++ h.posted
        replies := h.replies ++ [some (.sent response)] }
  | .error e t => { h with stage := t, replies := h.replies ++ [some (.refused e)] }

/-- The rehearsal after an order. -/
def after (m : TransferModule) (filed : κ → UInt64 → Option Packet) (h : Rehearsal κ β) :
    Order → Rehearsal κ β
  | .transfer message => h.transfer m filed message
  | .acknowledge sequence ack => h.settle sequence fun packet => m.onAcknowledgement packet ack
  | .timeout sequence => h.settle sequence fun packet => do return some (← m.onTimeout packet)

/-- The rehearsal of some orders, from a keeper and a ledger. -/
def of (m : TransferModule) (filed : κ → UInt64 → Option Packet) (k : κ) (b : β)
    (orders : List Order) : Rehearsal κ β :=
  orders.foldl (after m filed) { stage := ⟨k, b, []⟩ }

end Runs

end Rehearsal

/-- The packet that is committed under a number. -/
def RecordingKeeper.filed (k : RecordingKeeper) (sequence : UInt64) : Option Packet :=
  k.commitments.get? sequence

/-- The packet that is committed on a channel under a number. -/
def ChannelKeeper.filed (channel : Channel) (k : ChannelKeeper) (sequence : UInt64) :
    Option Packet :=
  k.commitments.get? ⟨channel, sequence⟩

/-- Under a number either both keepers have a packet or none has. -/
theorem RecordingKeeper.Doubles.filed_eq {source remote : Hop} {settled : List UInt64}
    {k : RecordingKeeper} {l : ChannelKeeper} (h : Doubles source remote settled k l)
    (sequence : UInt64) :
    l.filed source.channel sequence = (k.filed sequence).map (·.redirect remote) :=
  h.committed sequence

namespace Rehearsal

variable {β : Type} [Ledger β] {source remote : Hop} {m : TransferModule}
  {a : Rehearsal RecordingKeeper β} {b : Rehearsal ChannelKeeper β}

/-- Whether a rehearsal with the recording keeper and one with the keeper of channels have come to
the same. -/
structure Concurs (source remote : Hop) (a : Rehearsal RecordingKeeper β)
    (b : Rehearsal ChannelKeeper β) : Prop where
  keepers : RecordingKeeper.Doubles source remote a.settled a.stage.keeper b.stage.keeper
  ledgers : a.stage.ledger = b.stage.ledger
  posted : b.posted = a.posted.map (·.redirect remote)
  posts : ∀ p ∈ a.posted, RecordingKeeper.Posts source p
  replies : a.replies = b.replies
  settled : a.settled = b.settled

namespace Concurs

omit [Ledger β] in
/-- The same reply to an order that commits and settles nothing. -/
theorem replied (h : Concurs source remote a b) {s : Stage RecordingKeeper β}
    {t : Stage ChannelKeeper β}
    (hkeepers : RecordingKeeper.Doubles source remote a.settled s.keeper t.keeper)
    (hledgers : s.ledger = t.ledger) (reply : Option Reply) :
    Concurs source remote { a with stage := s, replies := a.replies ++ [reply] }
      { b with stage := t, replies := b.replies ++ [reply] } where
  keepers := hkeepers
  ledgers := hledgers
  posted := h.posted
  posts := h.posts
  replies := congrArg (· ++ [reply]) h.replies
  settled := h.settled

/-- **Messages.** -/
theorem transfer (h : Concurs source remote a b) (hr : m.registry.NativeCounterparts)
    {message : TransferMessage} (hm : message.Fits source) :
    Concurs source remote (a.transfer m RecordingKeeper.filed message)
      (b.transfer m (ChannelKeeper.filed source.channel) message) := by
  let P := RecordingKeeper.Doubles source remote a.settled
  have hliteral : Lockstep (β := Branch β) P P P (Transport.send message)
      (Transport.send message) :=
    RecordingKeeper.lockstep_send hm
  have hconverted : ∀ e c n, m.registry.find? message.token.denom.text = some e →
      Denom.parse (m.registry.entry e.counterparty).denom = .ok c → n ≠ 0 →
      Lockstep (β := Branch β) P P P (Transport.send { message with token := ⟨c, n⟩ })
        (Transport.send { message with token := ⟨c, n⟩ }) := by
    intro e c n hfind hc hpositive
    -- what a token of this chain is converted into is from this chain, too
    exact RecordingKeeper.lockstep_send (hm.withToken (hr _ e c hfind hc) hpositive)
  have houtbound := Outbound.lockstep_transfer m.params.requireExport hliteral hconverted
  have hsame := m.lockstep_transfer houtbound a.stage b.stage h.keepers h.ledgers
  rw [Rehearsal.transfer, Rehearsal.transfer]
  generalize m.transfer message a.stage = first, m.transfer message b.stage = second at hsame ⊢
  cases hsame with
  | ok response hkeepers hledgers =>
      exact {
        keepers := hkeepers
        ledgers := hledgers
        posted := by
          show (ChannelKeeper.filed _ _ _).toList ++ _ = List.map _ (_ ++ _)
          rw [hkeepers.filed_eq, h.posted, List.map_append, Option.toList_map]
        posts := by
          intro p hp
          rcases List.mem_append.1 hp with hp | hp
          · exact (hkeepers.recorded _ p (Option.mem_toList.1 hp)).2
          · exact h.posts p hp
        replies := congrArg (· ++ _) h.replies
        settled := h.settled }
  | error e hkeepers hledgers => exact h.replied hkeepers hledgers _

omit [Ledger β] in
/-- **Callbacks.** They are on packets under the same number, if there are such packets. -/
theorem settle (h : Concurs source remote a b) (sequence : UInt64)
    {f : Packet → Action RecordingKeeper β (Option ReversalOutcome)}
    {g : Packet → Action ChannelKeeper β (Option ReversalOutcome)}
    (hcallback : ∀ p, RecordingKeeper.Posts source p →
      Lockstep (Pinned a.stage.keeper b.stage.keeper)
        (RecordingKeeper.Doubles source remote (a.settled ++ [p.sequence]))
        (Pinned a.stage.keeper b.stage.keeper) (f p) (g (p.redirect remote))) :
    Concurs source remote (a.settle sequence f) (b.settle sequence g) := by
  have hfind : (b.posted.find? fun packet => packet.sequence = sequence) =
      (a.posted.find? fun packet => packet.sequence = sequence).map (·.redirect remote) := by
    rw [h.posted, List.find?_map]
    rfl
  rw [Rehearsal.settle, Rehearsal.settle, hfind]
  cases hposted : a.posted.find? fun packet => packet.sequence = sequence with
  | none => exact h.replied h.keepers h.ledgers none
  | some packet =>
      have hsequence : packet.sequence = sequence := by
        simpa using List.find?_some hposted
      have hposts := h.posts packet (List.mem_of_find?_eq_some hposted)
      have hsame := hcallback packet hposts a.stage b.stage ⟨rfl, rfl⟩ h.ledgers
      simp only [Option.map_some]
      generalize f packet a.stage = first, g (packet.redirect remote) b.stage = second at hsame ⊢
      cases hsame with
      | ok outcome hkeepers hledgers =>
          rw [hsequence] at hkeepers
          exact {
            keepers := hkeepers
            ledgers := hledgers
            posted := h.posted
            posts := h.posts
            replies := congrArg (· ++ _) h.replies
            settled := congrArg (· ++ _) h.settled }
      | error e hkeepers hledgers =>
          -- a callback that fails leaves the keepers alone
          obtain ⟨hs, ht⟩ := hkeepers
          refine h.replied ?_ hledgers _
          rw [hs, ht]
          exact h.keepers

/-- **Every order keeps the rehearsals together.** -/
theorem after (h : Concurs source remote a b) (hr : m.registry.NativeCounterparts) {o : Order}
    (ho : o.Fits source) :
    Concurs source remote (a.after m RecordingKeeper.filed o)
      (b.after m (ChannelKeeper.filed source.channel) o) := by
  have hrefund : ∀ p, RecordingKeeper.Posts source p → ∀ data, p.decodeData = .ok data →
      Lockstep (β := Branch β) (Pinned a.stage.keeper b.stage.keeper)
        (Pinned a.stage.keeper b.stage.keeper) (Pinned a.stage.keeper b.stage.keeper)
        (Transport.refund p data) (Transport.refund (p.redirect remote) data) := by
    rintro p ⟨message, hm, hp⟩ data hdata
    rw [hp, RecordingKeeper.decodeData_packetFor] at hdata
    cases hdata
    exact RecordingKeeper.lockstep_refund rfl hm.native
  cases o with
  | transfer message => exact h.transfer hr ho
  | acknowledge sequence ack =>
      refine h.settle sequence fun p hp => ?_
      exact m.lockstep_onAcknowledgement (h.keepers.hasCommitment_eq hp) (hrefund p hp)
        (h.keepers.clear hp) ack
  | timeout sequence =>
      refine h.settle sequence fun p hp => .bind ?_ fun _ => .pure _
      exact m.lockstep_onTimeout (h.keepers.hasCommitment_eq hp) (hrefund p hp)
        (h.keepers.clear hp)

/-- **So do all orders of a list.** -/
theorem foldl_after (h : Concurs source remote a b) (hr : m.registry.NativeCounterparts)
    {orders : List Order} (horders : ∀ o ∈ orders, o.Fits source) :
    Concurs source remote (orders.foldl (Rehearsal.after m RecordingKeeper.filed) a)
      (orders.foldl (Rehearsal.after m (ChannelKeeper.filed source.channel)) b) := by
  -- what the induction carries is the relation after each order
  induction orders generalizing a b with
  | nil => exact h
  | cons o orders ih =>
      have hstep := h.after hr (horders o List.mem_cons_self)
      exact ih hstep fun p hp => horders p (List.mem_cons_of_mem _ hp)

end Concurs

/-- **The recording keeper can stand in for the keeper of channels.** After any orders, and so after
each of them, it has come to the same. -/
theorem recording_rehearses (m : TransferModule) (channel : Channel) (remote : Hop) (ledger : β)
    (hr : m.registry.NativeCounterparts) {orders : List Order}
    (horders : ∀ o ∈ orders, o.Fits ⟨m.params.port, channel⟩) :
    let recorded := of m RecordingKeeper.filed {} ledger orders
    let real := of m (ChannelKeeper.filed channel)
      (({ port := m.params.port } : ChannelKeeper).openChannel channel remote) ledger orders
    recorded.stage.ledger = real.stage.ledger ∧
      recorded.replies = real.replies ∧
      (∀ n, (recorded.stage.keeper.filed n).isSome = (real.stage.keeper.filed channel n).isSome) ∧
      recorded.settled = real.settled ∧
      recorded.stage.keeper.cleared = recorded.settled := by
  have hfresh : Concurs (β := β) ⟨m.params.port, channel⟩ remote { stage := ⟨{}, ledger, []⟩ }
      { stage := ⟨({ port := m.params.port } : ChannelKeeper).openChannel channel remote, ledger,
        []⟩ } := {
    keepers := RecordingKeeper.doubles_fresh ⟨m.params.port, channel⟩ remote
    ledgers := rfl
    posted := rfl
    posts := fun p hp => absurd hp List.not_mem_nil
    replies := rfl
    settled := rfl }
  have h := hfresh.foldl_after hr horders
  refine ⟨h.ledgers, h.replies, ?_, h.settled, h.keepers.cleared⟩
  intro n
  have hfiled := congrArg Option.isSome (h.keepers.filed_eq n)
  rw [Option.isSome_map] at hfiled
  exact hfiled.symm

end Rehearsal

/-- The sample message is sent, its packet is refused by the other chain, and it times out
thereafter. -/
def Sample.orders : List Order :=
  [.transfer message, .acknowledge 1 (.error "refused"), .timeout 1, .timeout 2]

/-- The only counterpart of the sample registry is from this chain. -/
theorem Sample.nativeCounterparts : desk.registry.NativeCounterparts := by
  intro name e c hfind hc
  have hvalid : desk.registry.Valid := Registry.valid_ofEntries ofEntries_entries
  have htext := Denom.text_of_parse hc
  have hregistered : (desk.registry.entry e.counterparty).isEmpty = false := by
    rw [Entry.isEmpty, ← htext]
    exact Denom.isEmpty_text c
  have hnamed : (desk.registry.entry name).counterparty = c.text := by
    rw [Registry.entry_of_find? hfind, htext, hvalid.denom_entry hregistered]
  rw [eq_xrowan_of_counterparty hnamed]
  exact ⟨by decide, by decide +kernel⟩

theorem Sample.fits_message : message.Fits ⟨desk.params.port, channel⟩ where
  port := rfl
  channel := rfl
  positive := by decide
  receiver := by decide +kernel
  native := ⟨by decide, by decide +kernel⟩

namespace Rehearsal

/-- The keeper of channels replies to the sample orders as the recording keeper does. -/
theorem recording_rehearses_sample :
    (of Sample.desk (ChannelKeeper.filed Sample.channel)
      (({ port := .transfer } : ChannelKeeper).openChannel Sample.channel
        ⟨.transfer, .ofNat 7⟩) Sample.stage.ledger Sample.orders).replies =
      [some (.sent ⟨1⟩),
        some (.settled (some (.reversed ⟨Sample.xrowan, 12⟩ ⟨Sample.rowan, 1200000000⟩))),
        some (.refused (.commitmentNotFound Sample.channel 1)), none] := by
  have horders : ∀ o ∈ Sample.orders, o.Fits ⟨Sample.desk.params.port, Sample.channel⟩ := by
    intro o ho
    simp only [Sample.orders, List.mem_cons, List.not_mem_nil, or_false] at ho
    rcases ho with rfl | rfl | rfl | rfl
    · exact Sample.fits_message
    · trivial
    · trivial
    · trivial
  obtain ⟨-, hreplies, -⟩ := recording_rehearses Sample.desk Sample.channel ⟨.transfer, .ofNat 7⟩
    Sample.stage.ledger Sample.nativeCounterparts horders
  refine hreplies.symm.trans ?_
  decide +kernel

end Rehearsal

end Interchain
