import Interchain.Proofs.Transfer.Action
import Interchain.Transfer.Module

/-!
# The module over two keepers

The transfer module works with any keeper, so over two keepers it does the same as long as these
do. `Lockstep` says of two actions what this means: from keepers that are related and from equal
ledgers both yield the same value or fail with the same error, and leave related keepers and equal
ledgers. The log of events is left out of it.

Actions that are put together from steps in lockstep are in lockstep (`Lockstep.bind` and the
rules beside it). So what the module does with a message or a callback is in lockstep as soon as
the keepers are on sending and refunding (`Outbound.lockstep_transfer`,
`TransferModule.lockstep_onAcknowledgement`, `TransferModule.lockstep_onTimeout`).
-/

set_option autoImplicit false

namespace Interchain

variable {κ₁ κ₂ β α γ : Type}

/-- Whether two results are the same but for the keepers and the logs: keepers are in `Q` after a
success and in `E` after a failure. -/
inductive SameResult (Q E : κ₁ → κ₂ → Prop) :
    EStateM.Result TransferError (Stage κ₁ β) α → EStateM.Result TransferError (Stage κ₂ β) α →
      Prop where
  | ok (a : α) {s : Stage κ₁ β} {t : Stage κ₂ β} (keepers : Q s.keeper t.keeper)
      (ledgers : s.ledger = t.ledger) : SameResult Q E (.ok a s) (.ok a t)
  | error (e : TransferError) {s : Stage κ₁ β} {t : Stage κ₂ β} (keepers : E s.keeper t.keeper)
      (ledgers : s.ledger = t.ledger) : SameResult Q E (.error e s) (.error e t)

/-- The keepers are in anything that follows from what they are in. -/
theorem SameResult.mono {Q Q' E E' : κ₁ → κ₂ → Prop}
    {x : EStateM.Result TransferError (Stage κ₁ β) α}
    {y : EStateM.Result TransferError (Stage κ₂ β) α} (h : SameResult Q E x y)
    (hq : ∀ k l, Q k l → Q' k l) (he : ∀ k l, E k l → E' k l) : SameResult Q' E' x y := by
  cases h with
  | ok a hkeepers hledgers => exact .ok a (hq _ _ hkeepers) hledgers
  | error e hkeepers hledgers => exact .error e (he _ _ hkeepers) hledgers

/-- Whether two actions do the same from keepers in `P` and equal ledgers, with keepers in `Q` after
a success and in `E` after a failure. -/
def Lockstep (P Q E : κ₁ → κ₂ → Prop) (x : Action κ₁ β α) (y : Action κ₂ β α) : Prop :=
  ∀ s t, P s.keeper t.keeper → s.ledger = t.ledger → SameResult Q E (x s) (y t)

/-- The relation of two keepers only. -/
def Pinned (k : κ₁) (l : κ₂) : κ₁ → κ₂ → Prop :=
  fun k' l' => k' = k ∧ l' = l

namespace Lockstep

variable {P Q R E : κ₁ → κ₂ → Prop}

theorem pure (a : α) : Lockstep (β := β) P P E (Pure.pure a) (Pure.pure a) :=
  fun _ _ hkeepers hledgers => .ok a hkeepers hledgers

theorem throw (e : TransferError) :
    Lockstep (β := β) (α := α) E Q E (MonadExcept.throw e) (MonadExcept.throw e) :=
  fun _ _ hkeepers hledgers => .error e hkeepers hledgers

/-- **Steps in lockstep make actions in lockstep.** -/
theorem bind {x : Action κ₁ β α} {y : Action κ₂ β α} {f : α → Action κ₁ β γ}
    {g : α → Action κ₂ β γ} (hstep : Lockstep P Q E x y)
    (hrest : ∀ a, Lockstep Q R E (f a) (g a)) : Lockstep P R E (x >>= f) (y >>= g) := by
  intro s t hkeepers hledgers
  show SameResult R E (EStateM.bind x f s) (EStateM.bind y g t)
  have hsame := hstep s t hkeepers hledgers
  rw [EStateM.bind, EStateM.bind]
  generalize x s = first, y t = second at hsame ⊢
  cases hsame with
  -- the rest starts from what the step has left on both sides
  | ok a hkeepers hledgers => exact hrest a _ _ hkeepers hledgers
  | error e hkeepers hledgers => exact .error e hkeepers hledgers

/-- A guard fails on both sides or on none. -/
theorem guard {p : Prop} [Decidable p] {e : TransferError} {f : PUnit → Action κ₁ β α}
    {g : PUnit → Action κ₂ β α} {x : Action κ₁ β α} {y : Action κ₂ β α}
    (hrest : ¬ p → Lockstep E Q E x y) :
    Lockstep E Q E (if p then MonadExcept.throw e >>= f else x)
      (if p then MonadExcept.throw e >>= g else y) := by
  by_cases hp : p
  · rw [if_pos hp, if_pos hp]
    exact throw e
  · rw [if_neg hp, if_neg hp]
    exact hrest hp

/-- What is read on both sides is the same text. -/
theorem parsed_bind {x : Except FormatError α} {f : α → Action κ₁ β γ} {g : α → Action κ₂ β γ}
    (hrest : ∀ a, x = .ok a → Lockstep E Q E (f a) (g a)) :
    Lockstep E Q E (Action.parsed x >>= f) (Action.parsed x >>= g) := by
  cases x with
  | ok a => exact hrest a rfl
  | error e => exact throw (.malformed e)

theorem ofExcept_bind {x : Except TransferError α} {f : α → Action κ₁ β γ}
    {g : α → Action κ₂ β γ} (hrest : ∀ a, x = .ok a → Lockstep E Q E (f a) (g a)) :
    Lockstep E Q E (MonadExcept.ofExcept x >>= f) (MonadExcept.ofExcept x >>= g) := by
  cases x with
  | ok a => exact hrest a rfl
  | error e => exact throw e

/-- What is reported makes no difference. -/
theorem emit (kind : String) (attributes : List (String × String)) :
    Lockstep (β := β) P P E (Action.emit kind attributes) (Action.emit kind attributes) :=
  fun _ _ hkeepers hledgers => .ok () hkeepers hledgers

theorem onLedger (operation : LedgerOperation β Unit) :
    Lockstep E E E (Action.onLedger operation) (Action.onLedger operation) := by
  intro s t hkeepers hledgers
  rw [Action.onLedger, Action.onLedger, hledgers]
  cases operation.run t.ledger with
  | ok _ b => exact .ok () hkeepers rfl
  | error e b => exact .error _ hkeepers rfl

/-- **Units of work.** A branch is committed on both sides or on none. -/
theorem atomically [Ledger β] {x : Action κ₁ (Branch β) α} {y : Action κ₂ (Branch β) α}
    (h : Lockstep P Q E x y) : Lockstep P Q E (Action.atomically x) (Action.atomically y) := by
  intro s t hkeepers hledgers
  have hsame := h ⟨s.keeper, .start s.ledger, []⟩ ⟨t.keeper, .start t.ledger, []⟩ hkeepers
    (congrArg Branch.start hledgers)
  rw [Action.atomically, Action.atomically, EStateM.run, EStateM.run]
  generalize x _ = first, y _ = second at hsame ⊢
  cases hsame with
  | ok a hkeepers hbranches => exact .ok a hkeepers (congrArg Branch.commit hbranches)
  -- a branch that is dropped leaves the ledger behind it
  | error e hkeepers _ => exact .error e hkeepers hledgers

end Lockstep

/-! ## Conversions -/

section Conversions

variable [Ledger β] {E : κ₁ → κ₂ → Prop}

theorem Plan.lockstep_execute (p : Plan) (account : Address) (a : Amount) :
    Lockstep (β := β) E E E (p.execute account a) (p.execute account a) := by
  refine .bind (.onLedger _) fun _ => ?_
  refine .bind (.onLedger _) fun _ => ?_
  refine .bind (.onLedger _) fun _ => ?_
  exact .pure _

/-- The packet with another destination. -/
def Packet.redirect (p : Packet) (remote : Hop) : Packet :=
  { p with destinationPort := remote.port, destinationChannel := remote.channel }

/-- A reversal does not look at the destination of the packet. -/
theorem Reversal.lockstep_reverse (r : Registry) (packet : Packet) (remote : Hop)
    (data : PacketData) :
    Lockstep (β := β) E E E (reverse r packet data) (reverse r (packet.redirect remote) data) := by
  have hrecognize : recognize r (packet.redirect remote) data = recognize r packet data := rfl
  rw [reverse, reverse, hrecognize]
  cases recognize r packet data with
  | none => exact .pure _
  | some recognized =>
      refine .parsed_bind fun sender _ => ?_
      refine .bind (.atomically (Plan.lockstep_execute _ _ _)) fun e => ?_
      refine .bind (.emit _ _) fun _ => ?_
      exact .pure _

end Conversions

/-! ## Sending -/

section Sending

variable [Transport κ₁] [Transport κ₂] [Ledger β] {P : κ₁ → κ₂ → Prop} {r : Registry}
  {message : TransferMessage}

namespace Outbound

/-- A conversion is in lockstep if sending what comes of it is. -/
theorem lockstep_convertAndSend {counterpart : Entry} {po : Nat}
    (hsend : ∀ c a, Denom.parse counterpart.denom = .ok c → a ≠ 0 →
      Lockstep (β := β) P P P (Transport.send { message with token := ⟨c, a⟩ })
        (Transport.send { message with token := ⟨c, a⟩ })) :
    Lockstep (β := β) P P P (convertAndSend counterpart po message)
      (convertAndSend counterpart po message) := by
  refine .parsed_bind fun sender _ => ?_
  refine .parsed_bind fun c hc => ?_
  -- past the guard there is something to send
  refine .guard fun hpositive => ?_
  refine .bind (.onLedger _) fun _ => ?_
  refine .bind (.onLedger _) fun _ => ?_
  refine .bind (.onLedger _) fun _ => ?_
  refine .bind (.emit _ _) fun _ => ?_
  exact hsend c _ hc hpositive

/-- **A transfer is in lockstep** if sending the token and sending the counterpart that it may be
converted into are. -/
theorem lockstep_transfer (exportOnly : Bool)
    (hliteral : Lockstep (β := Branch β) P P P (Transport.send message) (Transport.send message))
    (hconverted : ∀ e c a, r.find? message.token.denom.text = some e →
      Denom.parse (r.entry e.counterparty).denom = .ok c → a ≠ 0 →
      Lockstep (β := Branch β) P P P (Transport.send { message with token := ⟨c, a⟩ })
        (Transport.send { message with token := ⟨c, a⟩ })) :
    Lockstep (β := β) P P P (transfer r exportOnly message) (transfer r exportOnly message) := by
  refine .guard fun _ => .atomically ?_
  rw [sendAs, sendAs]
  cases hnamed : (r.entry message.token.denom.text).hasCounterparty with
  | false => exact hliteral
  | true =>
      -- only a registered entry names a counterpart
      cases hfind : r.find? message.token.denom.text with
      | none =>
          rw [Registry.entry, hfind] at hnamed
          exact absurd hnamed (by decide)
      | some e =>
          have hentry : r.entry message.token.denom.text = e := by
            rw [Registry.entry, hfind]
            rfl
          rw [hentry]
          refine .guard fun _ => ?_
          by_cases hlower : e.decimals ≤ (r.entry e.counterparty).decimals
          · rw [if_pos hlower, if_pos hlower]
            exact hliteral
          · rw [if_neg hlower, if_neg hlower]
            exact lockstep_convertAndSend fun c a hc ha => hconverted e c a hfind hc ha

end Outbound

theorem TransferModule.lockstep_transfer (m : TransferModule)
    (houtbound : Lockstep (β := β) P P P
      (Outbound.transfer m.registry m.params.requireExport message)
      (Outbound.transfer m.registry m.params.requireExport message)) :
    Lockstep (β := β) P P P (m.transfer message) (m.transfer message) :=
  .guard fun _ => .guard fun _ => houtbound

end Sending

/-! ## Callbacks -/

namespace TransferModule

variable [Transport κ₁] [Transport κ₂] {k : κ₁} {l : κ₂} {packet : Packet} {remote : Hop}
  {Q : κ₁ → κ₂ → Prop}

/-- A callback is refused on both sides if the packet is committed on none. -/
theorem lockstep_requireCommitment_bind
    (hsame : Transport.hasCommitment k packet = Transport.hasCommitment l (packet.redirect remote))
    {f : Unit → Action κ₁ β α} {g : Unit → Action κ₂ β α}
    (hrest : Transport.hasCommitment k packet = true →
      Lockstep (Pinned k l) Q (Pinned k l) (f ()) (g ())) :
    Lockstep (Pinned k l) Q (Pinned k l) (requireCommitment packet >>= f)
      (requireCommitment (packet.redirect remote) >>= g) := by
  rintro s t ⟨rfl, rfl⟩ hledgers
  show SameResult _ _
    (((if !Transport.hasCommitment s.keeper packet then
        throw (.commitmentNotFound packet.sourceChannel packet.sequence) else pure ()) >>= f) s)
    (((if !Transport.hasCommitment t.keeper (packet.redirect remote) then
        throw (.commitmentNotFound packet.sourceChannel packet.sequence) else pure ()) >>= g) t)
  rw [← hsame]
  cases hcommitted : Transport.hasCommitment s.keeper packet with
  | false => exact .error _ ⟨rfl, rfl⟩ hledgers
  | true => exact hrest hcommitted s t ⟨rfl, rfl⟩ hledgers

/-- What the keepers are in when the commitment is forgotten they are in afterwards. -/
theorem lockstep_clearCommitment {E : κ₁ → κ₂ → Prop}
    (hcleared : Q (Transport.clearCommitment k packet)
      (Transport.clearCommitment l (packet.redirect remote))) :
    Lockstep (β := β) (Pinned k l) Q E (clearCommitment packet)
      (clearCommitment (packet.redirect remote)) := by
  rintro s t ⟨rfl, rfl⟩ hledgers
  exact .ok _ hcleared hledgers

variable [Ledger β] (m : TransferModule)

theorem lockstep_refund {data : PacketData}
    (hrefund : Lockstep (β := Branch β) (Pinned k l) (Pinned k l) (Pinned k l)
      (Transport.refund packet data) (Transport.refund (packet.redirect remote) data))
    (hcleared : Q (Transport.clearCommitment k packet)
      (Transport.clearCommitment l (packet.redirect remote))) :
    Lockstep (β := β) (Pinned k l) Q (Pinned k l) (m.refund packet data)
      (m.refund (packet.redirect remote) data) := by
  have hreversed : Lockstep (β := Branch β) (Pinned k l) (Pinned k l) (Pinned k l)
      (do let _ ← Transport.refund packet data; Reversal.reverse m.registry packet data)
      (do
        let _ ← Transport.refund (packet.redirect remote) data
        Reversal.reverse m.registry (packet.redirect remote) data) :=
    .bind hrefund fun _ => Reversal.lockstep_reverse _ _ _ _
  refine .bind (.atomically hreversed) fun outcome => ?_
  refine .bind (lockstep_clearCommitment hcleared) fun _ => ?_
  exact .pure _

section Settling

variable
  (hsame : Transport.hasCommitment k packet = Transport.hasCommitment l (packet.redirect remote))
  (hrefund : ∀ data, packet.decodeData = .ok data →
    Lockstep (β := Branch β) (Pinned k l) (Pinned k l) (Pinned k l)
      (Transport.refund packet data) (Transport.refund (packet.redirect remote) data))
  (hcleared : Transport.hasCommitment k packet = true →
    Q (Transport.clearCommitment k packet)
      (Transport.clearCommitment l (packet.redirect remote)))

include hsame hrefund hcleared

/-- **Acknowledgements are in lockstep** if the keepers agree on the commitment and on the
refund. -/
theorem lockstep_onAcknowledgement (ack : Acknowledgement) :
    Lockstep (β := β) (Pinned k l) Q (Pinned k l) (m.onAcknowledgement packet ack)
      (m.onAcknowledgement (packet.redirect remote) ack) := by
  refine lockstep_requireCommitment_bind hsame fun hcommitted => ?_
  refine .ofExcept_bind fun data hdata => ?_
  cases ack with
  | result text =>
      refine .bind (lockstep_clearCommitment (hcleared hcommitted)) fun _ => ?_
      refine .bind (.emit _ _) fun _ => ?_
      exact .pure _
  | error reason =>
      refine .bind (m.lockstep_refund (hrefund data hdata) (hcleared hcommitted)) fun _ => ?_
      refine .bind (.emit _ _) fun _ => ?_
      exact .pure _

/-- **So are timeouts.** -/
theorem lockstep_onTimeout :
    Lockstep (β := β) (Pinned k l) Q (Pinned k l) (m.onTimeout packet)
      (m.onTimeout (packet.redirect remote)) := by
  refine lockstep_requireCommitment_bind hsame fun hcommitted => ?_
  refine .ofExcept_bind fun data hdata => ?_
  refine .bind (m.lockstep_refund (hrefund data hdata) (hcleared hcommitted)) fun _ => ?_
  refine .bind (.emit _ _) fun _ => ?_
  exact .pure _

end Settling

end TransferModule

end Interchain
