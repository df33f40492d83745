import Interchain.Proofs.Ledger.Holdings
import Interchain.Proofs.Transfer.Run

/-!
# The supply is what is held

An action is made of postings if it changes the ledger by postings only, whether it succeeds or
fails, and is never refused for lack of supply by a balanced ledger (`Action.Posts`). Steps that are
made of postings make up actions that are, and a unit of work is, since committing its branch is
posting to the ledger itself. So all that the keeper and the module do is made of postings
(`TransferModule.journal_of_serve`).

Starting from an empty ledger, whatever is done at whatever depth of branches, the ledgers stay in
order (`Stage.Reachable.consistent`), and the supply is what is held (`supply_eq_totalHeld`).
-/

set_option autoImplicit false

namespace Interchain

open Ledger

/-- Whether a burn was refused because it exceeds the supply. -/
def TransferError.Underflow (e : TransferError) : Prop :=
  ∃ denom, e = .ledger (.supplyUnderflow denom)

namespace Action

/-! ## Actions made of postings -/

/-- An action that changes the ledger by postings only, whether it succeeds or fails, and that no
balanced ledger refuses for lack of supply. -/
structure Posts {κ β α : Type} [Ledger β] (x : Action κ β α) : Prop where
  ok {s t : Stage κ β} {a : α} : x s = .ok a t → ∃ js, Journal.post s.ledger js = .ok t.ledger
  error {s t : Stage κ β} {e : TransferError} :
    x s = .error e t → ∃ js, Journal.post s.ledger js = .ok t.ledger
  supplied {s t : Stage κ β} {e : TransferError} :
    Balanced s.ledger → x s = .error e t → ¬ e.Underflow

namespace Posts

variable {κ β α γ : Type} [Ledger β]

theorem pure (a : α) : Posts (Pure.pure a : Action κ β α) where
  ok h := ⟨[], by rw [(pure_eq_ok_iff.1 h).2]; rfl⟩
  error h := (pure_eq_error_iff.1 h).elim
  supplied _ h := (pure_eq_error_iff.1 h).elim

theorem throw {e : TransferError} (he : ¬ e.Underflow) :
    Posts (MonadExcept.throw e : Action κ β α) where
  ok h := (throw_eq_ok_iff.1 h).elim
  error h := ⟨[], by rw [(throw_eq_error_iff.1 h).2]; rfl⟩
  supplied _ h := by
    rw [(throw_eq_error_iff.1 h).1]
    exact he

theorem bind [LawfulLedger β] {x : Action κ β α} {f : α → Action κ β γ} (hx : Posts x)
    (hf : ∀ a, Posts (f a)) : Posts (x >>= f) where
  ok h := by
    obtain ⟨a, u, hok, hrest⟩ := bind_eq_ok_iff.1 h
    obtain ⟨js, hjs⟩ := hx.ok hok
    obtain ⟨ks, hks⟩ := (hf a).ok hrest
    exact ⟨js ++ ks, Journal.post_append_eq_ok_iff.2 ⟨_, hjs, hks⟩⟩
  error h := by
    rcases bind_eq_error_iff.1 h with herror | ⟨a, u, hok, hrest⟩
    · exact hx.error herror
    · obtain ⟨js, hjs⟩ := hx.ok hok
      obtain ⟨ks, hks⟩ := (hf a).error hrest
      exact ⟨js ++ ks, Journal.post_append_eq_ok_iff.2 ⟨_, hjs, hks⟩⟩
  supplied hb h := by
    rcases bind_eq_error_iff.1 h with herror | ⟨a, u, hok, hrest⟩
    · exact hx.supplied hb herror
    · obtain ⟨js, hjs⟩ := hx.ok hok
      exact (hf a).supplied (hb.post hjs) hrest

theorem get_bind {f : Stage κ β → Action κ β α} (hf : ∀ s, Posts (f s)) :
    Posts (get >>= f) where
  ok h := (hf _).ok (get_bind_eq_ok_iff.1 h)
  error h := (hf _).error (get_bind_eq_error_iff.1 h)
  supplied hb h := (hf _).supplied hb (get_bind_eq_error_iff.1 h)

/-- Whatever becomes of keeper and log, the ledger is left alone. -/
theorem modify {f : Stage κ β → Stage κ β} (hf : ∀ s, (f s).ledger = s.ledger) :
    Posts (MonadStateOf.modifyGet fun s => (PUnit.unit, f s) : Action κ β PUnit) where
  ok h := ⟨[], by rw [modify_eq_ok_iff.1 h, hf]; rfl⟩
  error h := (modify_eq_error_iff.1 h).elim
  supplied _ h := (modify_eq_error_iff.1 h).elim

theorem emit (kind : String) (attributes : List (String × String)) :
    Posts (Action.emit kind attributes : Action κ β Unit) :=
  modify fun _ => rfl

theorem onLedger (j : Posting) : Posts (Action.onLedger j.operation : Action κ β Unit) where
  ok h := by
    obtain ⟨b, hb, rfl⟩ := onLedger_eq_ok_iff.1 h
    exact ⟨[j], Journal.post_cons_eq_ok_iff.2 ⟨b, hb, rfl⟩⟩
  error h := by
    obtain ⟨f, -, -, rfl⟩ := onLedger_eq_error_iff.1 h
    exact ⟨[], rfl⟩
  supplied hb h := by
    obtain ⟨f, hf, rfl, rfl⟩ := onLedger_eq_error_iff.1 h
    rintro ⟨denom, hdenom⟩
    cases hdenom
    exact hb.post_ne_supplyUnderflow j denom hf

theorem parsed (x : Except FormatError α) : Posts (Action.parsed x : Action κ β α) := by
  cases x with
  | ok a => exact pure a
  | error e => exact throw fun ⟨_, h⟩ => nomatch h

theorem ofExcept {x : Except TransferError α} (hx : ∀ e, x = .error e → ¬ e.Underflow) :
    Posts (MonadExcept.ofExcept x : Action κ β α) := by
  cases x with
  | ok a => exact pure a
  | error e => exact throw (hx e rfl)

theorem ite {p : Prop} [Decidable p] {x y : Action κ β α} (hx : Posts x) (hy : Posts y) :
    Posts (if p then x else y) := by
  split
  · exact hx
  · exact hy

/-- An action that starts with a check. -/
theorem guard [LawfulLedger β] {p : Prop} [Decidable p] {e : TransferError}
    {f : PUnit → Action κ β α} {x : Action κ β α} (he : ¬ e.Underflow) (hx : Posts x) :
    Posts (if p then MonadExcept.throw e >>= f else x) where
  ok h := hx.ok (guard_eq_ok_iff.1 h).2
  error h := by
    rcases guard_eq_error_iff.1 h with ⟨-, -, rfl⟩ | ⟨-, h⟩
    · exact ⟨[], rfl⟩
    · exact hx.error h
  supplied hb h := by
    rcases guard_eq_error_iff.1 h with ⟨-, rfl, -⟩ | ⟨-, h⟩
    · exact he
    · exact hx.supplied hb h

/-- **A unit of work posts what it posted to its branch, or nothing.** -/
theorem atomically [CanonicalLedger β] {x : Action κ (Branch β) α} (hx : Posts x) :
    Posts (Action.atomically x) where
  ok h := by
    obtain ⟨u, hok, rfl⟩ := atomically_eq_ok_iff.1 h
    obtain ⟨js, hjs⟩ := hx.ok hok
    exact ⟨js, Journal.post_of_branch hjs⟩
  error h := by
    obtain ⟨u, -, rfl⟩ := atomically_eq_error_iff.1 h
    exact ⟨[], rfl⟩
  supplied hb h := by
    obtain ⟨u, herror, -⟩ := atomically_eq_error_iff.1 h
    exact hx.supplied (hb.of_view (Branch.view_start _)) herror

end Posts

end Action

/-! ## The operations -/

open Interchain.Action

namespace ChannelKeeper

variable {β : Type} [Ledger β] [LawfulLedger β]

theorem posts_takeOut (source : Hop) (path : String) (sender : Address) (token : Coin) :
    Posts (β := β) (takeOut source path sender token) := by
  unfold takeOut
  exact .ite (.onLedger (.pay sender (.escrow source.port source.channel) token))
    (.bind (.onLedger (.pay sender custodian token)) fun _ =>
      .onLedger (.burn transferModule token))

theorem posts_mintTo (account : Address) (coin : Coin) :
    Posts (β := β) (mintTo account coin) := by
  unfold mintTo
  exact .bind (.onLedger (.mint transferModule coin)) fun _ =>
    .onLedger (.pay custodian account coin)

theorem posts_recordTrace (denom : Denom) (trace : Trace) :
    Posts (β := β) (recordTrace denom trace) := by
  unfold recordTrace
  exact .get_bind fun s => .ite (.bind (.emit _ _) fun _ => .modify fun _ => rfl) (.pure _)

theorem not_underflow_of_fullPath {k : ChannelKeeper} {denom : Denom} {e : TransferError}
    (h : k.fullPath denom = .error e) : ¬ e.Underflow := by
  rw [fullPath] at h
  rintro ⟨_, rfl⟩
  split at h
  · split at h
    · cases h
    · cases h
  · cases h

theorem posts_send (message : TransferMessage) : Posts (β := β) (send message) := by
  unfold send
  refine .get_bind fun s => .guard nofun (.guard nofun ?_)
  split
  · exact .throw nofun
  · refine .guard nofun (.guard nofun (.bind (.parsed _) fun sender => ?_))
    refine .bind (.ofExcept fun e he => not_underflow_of_fullPath he) fun path => ?_
    refine .bind (posts_takeOut _ _ _ _) fun _ => ?_
    exact .bind (.modify fun _ => rfl) fun _ => .bind (.emit _ _) fun _ => .pure _

theorem posts_bringIn (packet : Packet) (data : PacketData) (receiver : Address) :
    Posts (β := β) (bringIn packet data receiver) := by
  unfold bringIn
  refine .ite (.bind (.parsed _) fun denom => ?_) (.bind (.parsed _) fun denom => ?_)
  · exact .bind (.onLedger (.pay (.escrow _ _) receiver ⟨denom, data.amount⟩)) fun _ => .pure _
  · exact .bind (posts_recordTrace _ _) fun _ => .bind (posts_mintTo _ _) fun _ => .pure _

theorem posts_receive (packet : Packet) (data : PacketData) :
    Posts (β := β) (receive packet data) := by
  unfold receive
  refine .get_bind fun s => .guard nofun (.guard nofun (.bind (.parsed _) fun receiver => ?_))
  exact .bind (posts_bringIn _ _ _) fun _ => .bind (.emit _ _) fun _ => .pure _

theorem posts_refund (packet : Packet) (data : PacketData) :
    Posts (β := β) (refund packet data) := by
  unfold refund
  refine .bind (.parsed _) fun sender => .bind (.parsed _) fun denom => .ite ?_ ?_
  · exact .bind (.onLedger (.pay (.escrow _ _) sender ⟨denom, data.amount⟩)) fun _ => .pure _
  · exact .bind (posts_mintTo _ _) fun _ => .pure _

end ChannelKeeper

theorem Plan.posts_execute {β : Type} [Ledger β] [LawfulLedger β] (p : Plan) (account : Address)
    (a : Amount) : Posts (κ := ChannelKeeper) (β := β) (p.execute account a) := by
  unfold execute
  refine .bind (.onLedger (.pay account custodian _)) fun _ => ?_
  refine .bind (.onLedger (.burn transferModule _)) fun _ => ?_
  exact .bind (.onLedger (.pay custodian account _)) fun _ => .pure _

variable {β : Type} [Ledger β] [CanonicalLedger β]

theorem Reversal.posts_reverse (r : Registry) (packet : Packet) (data : PacketData) :
    Posts (κ := ChannelKeeper) (β := β) (reverse r packet data) := by
  unfold reverse
  split
  · exact .pure _
  · refine .bind (.parsed _) fun sender => ?_
    refine .bind (.atomically (Plan.posts_execute _ _ _)) fun _ => ?_
    exact .bind (.emit _ _) fun _ => .pure _

namespace Outbound

theorem posts_convertAndSend (counterpart : Entry) (po : Nat) (message : TransferMessage) :
    Posts (κ := ChannelKeeper) (β := β) (convertAndSend counterpart po message) := by
  unfold convertAndSend
  refine .bind (.parsed _) fun sender => .bind (.parsed _) fun denom => .guard nofun ?_
  refine .bind (.onLedger (.pay sender custodian _)) fun _ => ?_
  refine .bind (.onLedger (.mint transferModule _)) fun _ => ?_
  refine .bind (.onLedger (.pay custodian sender _)) fun _ => ?_
  exact .bind (.emit _ _) fun _ => ChannelKeeper.posts_send _

theorem posts_sendAs (r : Registry) (entry : Entry) (message : TransferMessage) :
    Posts (κ := ChannelKeeper) (β := β) (sendAs r entry message) := by
  unfold sendAs
  refine .ite (ChannelKeeper.posts_send _) (.guard nofun (.ite (ChannelKeeper.posts_send _) ?_))
  exact posts_convertAndSend _ _ _

theorem posts_transfer (r : Registry) (exportOnly : Bool) (message : TransferMessage) :
    Posts (κ := ChannelKeeper) (β := β) (transfer r exportOnly message) := by
  unfold transfer
  exact .guard nofun (.atomically (posts_sendAs _ _ _))

end Outbound

namespace TransferModule

variable (m : TransferModule)

theorem not_underflow_of_decodeData {packet : Packet} {e : TransferError}
    (h : packet.decodeData = .error e) : ¬ e.Underflow := by
  rw [Packet.decodeData] at h
  rintro ⟨_, rfl⟩
  split at h
  · cases h
  · cases h

theorem posts_transfer (message : TransferMessage) :
    Posts (κ := ChannelKeeper) (β := β) (m.transfer message) := by
  unfold transfer
  exact .guard nofun (.guard nofun (Outbound.posts_transfer _ _ _))

theorem posts_convertReceived (data : PacketData) (received : Coin) :
    Posts (κ := ChannelKeeper) (β := β) (m.convertReceived data received) := by
  unfold convertReceived
  split
  · exact .pure _
  · refine .bind (.parsed _) fun receiver => .bind (Plan.posts_execute _ _ _) fun _ => ?_
    exact .bind (.emit _ _) fun _ => .pure _

theorem posts_receive (packet : Packet) :
    Posts (κ := ChannelKeeper) (β := β) (m.receive packet) := by
  unfold receive credit
  refine .guard nofun (.bind (.ofExcept fun e he => not_underflow_of_decodeData he) fun data => ?_)
  refine .atomically (.bind (ChannelKeeper.posts_receive _ _) fun _ => .guard nofun ?_)
  exact m.posts_convertReceived _ _

theorem posts_refund (packet : Packet) (data : PacketData) :
    Posts (κ := ChannelKeeper) (β := β) (m.refund packet data) := by
  unfold refund clearCommitment
  refine .bind (.atomically ?_) fun _ => .bind (.modify fun _ => rfl) fun _ => .pure _
  exact .bind (ChannelKeeper.posts_refund _ _) fun _ => Reversal.posts_reverse _ _ _

omit [CanonicalLedger β] in
theorem posts_requireCommitment (packet : Packet) :
    Posts (κ := ChannelKeeper) (β := β) (requireCommitment packet) := by
  unfold requireCommitment
  exact .get_bind fun s => .ite (.throw nofun) (.pure _)

theorem posts_onAcknowledgement (packet : Packet) (ack : Acknowledgement) :
    Posts (κ := ChannelKeeper) (β := β) (m.onAcknowledgement packet ack) := by
  unfold onAcknowledgement clearCommitment
  refine .bind (posts_requireCommitment _) fun _ => ?_
  refine .bind (.ofExcept fun e he => not_underflow_of_decodeData he) fun data => ?_
  cases ack with
  | result text =>
      exact .bind (.modify fun _ => rfl) fun _ => .bind (.emit _ _) fun _ => .pure _
  | error reason =>
      exact .bind (m.posts_refund _ _) fun _ => .bind (.emit _ _) fun _ => .pure _

theorem posts_onTimeout (packet : Packet) :
    Posts (κ := ChannelKeeper) (β := β) (m.onTimeout packet) := by
  unfold onTimeout
  refine .bind (posts_requireCommitment _) fun _ => ?_
  refine .bind (.ofExcept fun e he => not_underflow_of_decodeData he) fun data => ?_
  exact .bind (m.posts_refund _ _) fun _ => .bind (.emit _ _) fun _ => .pure _

theorem posts_onPacket (packet : Packet) :
    Posts (κ := ChannelKeeper) (β := β) (m.onPacket packet) where
  ok {s t a} h := by
    -- a packet that cannot be credited is answered too
    rcases onPacket_eq_ok_iff.1 h with ⟨_, hreceive, -⟩ | ⟨_, _, hreceive, -, rfl⟩
    · exact (m.posts_receive packet).ok hreceive
    · obtain ⟨js, hjs⟩ := (m.posts_receive packet).error hreceive
      exact ⟨js, hjs⟩
  error {s t e} h := by
    obtain ⟨_, _, hok⟩ := m.exists_onPacket packet s
    cases h.symm.trans hok
  supplied {s t e} _ h := by
    obtain ⟨_, _, hok⟩ := m.exists_onPacket packet s
    cases h.symm.trans hok

variable {m} {s : Stage ChannelKeeper β}

omit [CanonicalLedger β] in
/-- An action that is made of postings is answered after postings, and a refusal is never for lack
of supply. -/
theorem journal_of_answer {α : Type} {x : Action ChannelKeeper β α} (hx : Posts x)
    {reply : α → Reply} (hreply : ∀ a e, reply a ≠ .refused e) :
    (∃ js, Journal.post s.ledger js = .ok (answer reply (x s)).2.ledger) ∧
      (Balanced s.ledger → ∀ e, (answer reply (x s)).1 = .refused e → ¬ e.Underflow) := by
  cases h : x s with
  | ok a t => exact ⟨hx.ok h, fun _ e he => (hreply a e he).elim⟩
  | error e t =>
      refine ⟨hx.error h, fun hb _ he => ?_⟩
      cases he
      exact hx.supplied hb h

/-- **What a request does to the ledger is a journal, and no refusal is for lack of supply.** -/
theorem journal_of_serve (s : Stage ChannelKeeper β) (q : Request) :
    (∃ js, Journal.post s.ledger js = .ok (m.serve s q).2.ledger) ∧
      (Balanced s.ledger → ∀ e, (m.serve s q).1 = .refused e → ¬ e.Underflow) := by
  cases q with
  | openChannel channel remote => exact ⟨⟨[], rfl⟩, fun _ _ => nofun⟩
  | transfer message => exact journal_of_answer (m.posts_transfer message) nofun
  | receive packet => exact journal_of_answer (m.posts_onPacket packet) nofun
  | acknowledge packet ack => exact journal_of_answer (m.posts_onAcknowledgement packet ack) nofun
  | timeout packet => exact journal_of_answer (m.posts_onTimeout packet) nofun

end TransferModule

/-! ## Reachable ledgers -/

namespace LedgerCommand

/-- Whether the command is an operation or a read, and not a write of its own. -/
def Orderly : LedgerCommand → Prop
  | setBalance _ _ _ => False
  | setSupply _ _ => False
  | _ => True

omit [CanonicalLedger β] in
theorem journal_of_perform {b c : β} {j : Posting} (h : c = (perform b j.operation).2) :
    ∃ js, Journal.post b js = .ok c := by
  subst h
  rw [perform_operation]
  cases hj : j.post b with
  | ok after => exact ⟨[j], Journal.post_cons_eq_ok_iff.2 ⟨after, hj, rfl⟩⟩
  | error e => exact ⟨[], rfl⟩

omit [CanonicalLedger β] in
/-- An orderly command does nothing but post. -/
theorem journal_of_run {command : LedgerCommand} (h : command.Orderly) (b : β) :
    ∃ js, Journal.post b js = .ok (command.run b).2 := by
  cases command with
  | send source target coin => exact journal_of_perform (j := .pay source target coin) rfl
  | sendToModule source name coin =>
      exact journal_of_perform (j := .pay source (.ofModule name) coin) rfl
  | sendFromModule name target coin =>
      exact journal_of_perform (j := .pay (.ofModule name) target coin) rfl
  | mint name coin => exact journal_of_perform (j := .mint name coin) rfl
  | burn name coin => exact journal_of_perform (j := .burn name coin) rfl
  | setBalance account denom a => exact h.elim
  | setSupply denom a => exact h.elim
  | balance account denom => exact ⟨[], rfl⟩
  | supply denom => exact ⟨[], rfl⟩
  | permissions name => exact ⟨[], rfl⟩

end LedgerCommand

namespace Stage

/-- Whether a stage comes about, from an empty stored ledger, by funding accounts and registering
modules, by commands and requests on the ledger or inside branches, and by opening branches, which
are committed or dropped. Commands and requests may fail, the requests may be put to any module,
and keeper and log may be any. -/
inductive Reachable : {n : Nat} → Stage ChannelKeeper (Nested n) → Prop where
  | empty (k : ChannelKeeper) (log : EventLog) :
      Reachable (n := 0) ⟨k, (∅ : MemoryLedger), log⟩
  | funded {s : Stage ChannelKeeper (Nested 0)} (reachable : Reachable s) (account : Address)
      (coin : Coin) :
      Reachable (n := 0) { s with ledger := MemoryLedger.fund s.ledger account coin }
  | registered {s : Stage ChannelKeeper (Nested 0)} (reachable : Reachable s) (name : String)
      (permissions : ModulePermissions) :
      Reachable (n := 0) { s with ledger := MemoryLedger.registerModule s.ledger name permissions }
  | replaced {n : Nat} {s : Stage ChannelKeeper (Nested n)} (reachable : Reachable s)
      (k : ChannelKeeper) (log : EventLog) : Reachable ⟨k, s.ledger, log⟩
  | commanded {n : Nat} {s : Stage ChannelKeeper (Nested n)} (reachable : Reachable s)
      {command : LedgerCommand} (orderly : command.Orderly) :
      Reachable { s with ledger := (command.run s.ledger).2 }
  | served {n : Nat} {s : Stage ChannelKeeper (Nested n)} (reachable : Reachable s)
      (m : TransferModule) (q : Request) : Reachable (m.serve s q).2
  | opened {n : Nat} {s : Stage ChannelKeeper (Nested n)} (reachable : Reachable s) :
      Reachable ⟨s.keeper, s.ledger.start, s.events⟩
  | committed {n : Nat} {s : Stage ChannelKeeper (Nested (n + 1))} (reachable : Reachable s) :
      Reachable ⟨s.keeper, s.ledger.commit, s.events⟩
  | dropped {n : Nat} {s : Stage ChannelKeeper (Nested (n + 1))} (reachable : Reachable s) :
      Reachable ⟨s.keeper, s.ledger.parent, s.events⟩

namespace Reachable

variable {n : Nat} {s : Stage ChannelKeeper (Nested n)}

/-- **A reachable ledger is in order, at any depth.** -/
theorem consistent (h : s.Reachable) : s.ledger.Consistent := by
  induction h with
  | empty k log => exact MemoryLedger.consistent_empty
  | funded _ account coin ih => exact MemoryLedger.Consistent.fund ih account coin
  | registered _ name permissions ih =>
      exact MemoryLedger.Consistent.registerModule ih name permissions
  | replaced _ k log ih => exact ih
  | @commanded n s _ command horderly ih =>
      obtain ⟨js, hjs⟩ := LedgerCommand.journal_of_run horderly s.ledger
      exact ih.post hjs
  | @served n s _ m q ih =>
      obtain ⟨⟨js, hjs⟩, -⟩ := TransferModule.journal_of_serve (m := m) s q
      exact ih.post hjs
  | opened _ ih => exact ih.start
  | committed _ ih => exact ih.commit
  | dropped _ ih => exact ih.parent

/-- A run starts at one reachable stage and ends at another. -/
theorem run (h : s.Reachable) (m : TransferModule) (qs : List Request) : (m.run s qs).Reachable :=
  m.run_induction h fun _ ht q _ => ht.served m q

end Reachable

end Stage

/-- **The supply is what is held.** Whatever is done, the stored ledger holds of every denomination
what its supply is, and stores no zero. So neither outside nor inside branches a burn exceeds the
supply, be it made as such or by the module. -/
theorem supply_eq_totalHeld :
    (∀ s : Stage ChannelKeeper (Nested 0), s.Reachable →
      (∀ denom, MemoryLedger.totalHeld s.ledger denom = supply s.ledger denom) ∧
        MemoryLedger.Sparse s.ledger) ∧
      ∀ (n : Nat) (s : Stage ChannelKeeper (Nested n)), s.Reachable → ∀ denom,
        (∀ name coin, (burn name coin).outcome s.ledger ≠ .error (.supplyUnderflow denom)) ∧
          ∀ m : TransferModule,
            (∀ q, (m.serve s q).1 ≠ .refused (.ledger (.supplyUnderflow denom))) ∧
              ∀ packet t, m.receive packet s ≠ .error (.ledger (.supplyUnderflow denom)) t := by
  refine ⟨fun s hs => ?_, fun n s hs denom => ?_⟩
  · have hconsistent : MemoryLedger.Consistent s.ledger := hs.consistent
    exact ⟨hconsistent.balanced.totalHeld, hconsistent.sparse⟩
  · have hbalanced := hs.consistent.balanced
    refine ⟨fun name coin => hbalanced.burn_ne_supplyUnderflow name coin denom, fun m => ⟨?_, ?_⟩⟩
    · intro q hq
      obtain ⟨-, hrefused⟩ := TransferModule.journal_of_serve (m := m) s q
      exact hrefused hbalanced _ hq ⟨denom, rfl⟩
    · intro packet t hreceive
      exact (m.posts_receive packet).supplied hbalanced hreceive ⟨denom, rfl⟩

/-! ## A sample stage that is reached -/

namespace Sample

theorem reachable_stage : Stage.Reachable (n := 0) stage :=
  ((Stage.Reachable.empty { port := .transfer } []).registered transferModule ⟨true, true⟩).funded
    (user 1) ⟨rowan, 5000000000⟩

/-- The stage after the sample message was sent, with a branch opened on its ledger. -/
def branched : Stage ChannelKeeper (Nested 1) :=
  let s : Stage ChannelKeeper (Nested 0) := desk.run stage [opening, .transfer message]
  ⟨s.keeper, s.ledger.start, s.events⟩

theorem reachable_branched : branched.Reachable :=
  (reachable_stage.run desk [opening, .transfer message]).opened

end Sample

/-- All twelve `xrowan` of the sample message are held, and a branch refuses to burn a thirteenth
for the account of the module, which has none. -/
theorem supply_eq_totalHeld_sample :
    MemoryLedger.totalHeld Sample.branched.ledger.parent Sample.xrowan = 12 ∧
      Sample.branched.Reachable ∧
      (burn transferModule ⟨Sample.xrowan, 13⟩).outcome Sample.branched.ledger ≠
        .error (.supplyUnderflow Sample.xrowan) := by
  obtain ⟨hstored, hburns⟩ := supply_eq_totalHeld
  obtain ⟨hheld, -⟩ := hstored ⟨Sample.branched.keeper, Sample.branched.ledger.parent,
    Sample.branched.events⟩ Sample.reachable_branched.dropped
  refine ⟨?_, Sample.reachable_branched, ?_⟩
  · rw [hheld]
    decide +kernel
  · exact (hburns 1 _ Sample.reachable_branched Sample.xrowan).1 _ _

end Interchain
