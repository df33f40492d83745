import Interchain.Proofs.Transport.Traces

/-!
# Reachable keepers

A keeper is reachable if the operations of keepers, in any order, lead to it from a new one. Every
trace in a reachable keeper stands under the denomination that it is held under
(`Reachable.held`), even though any trace may be set by hand.
-/

set_option autoImplicit false

namespace Interchain

namespace ChannelKeeper

/-- Whether a keeper comes about by the operations of keepers. Of sending it counts only what the
keeper asks of a message, and of receiving that a trace is learned. -/
inductive Reachable : ChannelKeeper → Prop where
  | new (port : Port) : Reachable { port := port }
  | switched {k : ChannelKeeper} (reachable : Reachable k) (sendEnabled receiveEnabled : Bool) :
      Reachable { k with sendEnabled := sendEnabled, receiveEnabled := receiveEnabled }
  | opened {k : ChannelKeeper} (reachable : Reachable k) (channel : Channel) (remote : Hop) :
      Reachable (k.openChannel channel remote)
  | traced {k l : ChannelKeeper} {trace : Trace} {denom : Denom} (reachable : Reachable k)
      (set : k.setTrace trace = .ok (denom, l)) : Reachable l
  | sent {k : ChannelKeeper} {message : TransferMessage} {remote : Hop} {sender : Address}
      {path : String} (reachable : Reachable k) (admits : k.Admits message remote sender path) :
      Reachable (k.commit (k.outgoing message remote path))
  | arrived {k : ChannelKeeper} {packet : Packet} {path : String} {denom : Denom}
      (reachable : Reachable k) (held : (arrivalTrace packet path).localDenom = .ok denom) :
      Reachable (k.afterArrival packet path denom)
  | cleared {k : ChannelKeeper} (reachable : Reachable k) (key : PacketKey) :
      Reachable (k.deleteCommitment key)

theorem held_setTrace {k l : ChannelKeeper} {trace : Trace} {denom : Denom} (hk : k.Held)
    (h : k.setTrace trace = .ok (denom, l)) : l.Held := by
  rw [setTrace] at h
  cases hlocal : trace.localDenom with
  | error fault =>
      rw [hlocal] at h
      cases h
  | ok held =>
      rw [hlocal] at h
      cases h
      intro d other hstored
      rcases FiniteMap.get?_insert_eq_some_iff.1 hstored with ⟨rfl, rfl⟩ | ⟨-, hstored⟩
      · exact hlocal
      · exact hk d other hstored

/-- **In a reachable keeper every trace stands under its own denomination.** -/
theorem Reachable.held {k : ChannelKeeper} (h : k.Reachable) : k.Held := by
  -- only setting a trace and an arrival touch the store
  induction h with
  | new port =>
      intro denom trace hstored
      cases hstored
  | switched _ sendEnabled receiveEnabled ih => exact ih
  | opened _ channel remote ih => exact ih
  | traced _ hset ih => exact held_setTrace ih hset
  | sent _ hadmits ih => exact ih
  | arrived _ hheld ih => exact held_afterArrival ih hheld
  | cleared _ key ih => exact ih

end ChannelKeeper

end Interchain
