import Interchain.Proofs.FiniteMap
import Interchain.Proofs.Trace
import Interchain.Proofs.Transport.Channels

/-!
# Known traces

As long as every trace stands under the denomination that it is held under, the full path of a
token leads back to the token exactly if its denomination reads as one of this chain
(`localDenom_of_fullPath_iff`): a denomination that spells a path is taken for a token from another
chain. A store that arrivals alone have filled is traced besides: what is stored under a voucher is
a proper trace with hops, and all that an arrival adds is one more such trace
(`traces_of_afterArrival`).
-/

set_option autoImplicit false

namespace Interchain

namespace ChannelKeeper

/-- The full path of a voucher is that of its trace. -/
theorem exists_trace_of_fullPath {k : ChannelKeeper} {denom : Denom} {path : String}
    (hvoucher : denom.isVoucher = true) (hpath : k.fullPath denom = .ok path) :
    ∃ trace, k.traces.get? denom = some trace ∧ path = trace.fullPath := by
  rw [fullPath, if_pos hvoucher] at hpath
  cases hstored : k.traces.get? denom with
  | none =>
      rw [hstored] at hpath
      cases hpath
  | some trace =>
      rw [hstored] at hpath
      cases hpath
      exact ⟨trace, rfl, rfl⟩

/-- Any other denomination is its own full path. -/
theorem eq_text_of_fullPath {k : ChannelKeeper} {denom : Denom} {path : String}
    (hvoucher : denom.isVoucher = false) (hpath : k.fullPath denom = .ok path) :
    path = denom.text := by
  rw [fullPath, hvoucher, if_neg Bool.false_ne_true] at hpath
  cases hpath
  rfl

/-- The only trace that is new after an arrival is that of the token. -/
theorem traces_of_afterArrival {k : ChannelKeeper} {packet : Packet} {path : String}
    {denom d : Denom} {trace : Trace}
    (h : (k.afterArrival packet path denom).traces.get? d = some trace) :
    k.traces.get? d = some trace ∨ receiverIsSource packet.source path = false ∧ d = denom ∧
      trace = (Trace.parse path).addHop packet.destination := by
  rw [afterArrival] at h
  split at h
  · exact .inl h
  · rename_i hside
    rw [learn] at h
    split at h
    · exact .inl h
    · rcases FiniteMap.get?_insert_eq_some_iff.1 h with ⟨rfl, rfl⟩ | ⟨-, h⟩
      · exact .inr ⟨eq_false_of_ne_true hside, rfl, if_neg hside⟩
      · exact .inl h

/-! ## Traces under their denominations -/

/-- Whether every stored trace stands under the denomination that it is held under. -/
def Held (k : ChannelKeeper) : Prop :=
  ∀ denom trace, k.traces.get? denom = some trace → trace.localDenom = .ok denom

theorem held_afterArrival {k : ChannelKeeper} (hk : k.Held) {packet : Packet} {path : String}
    {denom : Denom} (hlocal : (arrivalTrace packet path).localDenom = .ok denom) :
    (k.afterArrival packet path denom).Held := by
  intro d trace hstored
  rcases traces_of_afterArrival hstored with hknown | ⟨hside, rfl, rfl⟩
  · exact hk d trace hknown
  · rw [arrivalTrace, hside] at hlocal
    exact hlocal

/-- The full path of a token is its denomination, unless the token is held as the voucher of the
path. -/
theorem eq_text_or_voucher_of_fullPath {k : ChannelKeeper} (hk : k.Held) {denom : Denom}
    {path : String} (hpath : k.fullPath denom = .ok path) :
    path = denom.text ∨ (Trace.parse path).isNative = false ∧ denom = Trace.voucher path := by
  cases hvoucher : denom.isVoucher with
  | false => exact .inl (eq_text_of_fullPath hvoucher hpath)
  | true =>
      obtain ⟨trace, hstored, rfl⟩ := exists_trace_of_fullPath hvoucher hpath
      have hlocal := hk denom trace hstored
      cases hnative : trace.isNative with
      | true =>
          left
          rw [Trace.fullPath_of_native hnative, Trace.text_of_localDenom hnative hlocal]
      | false =>
          rw [Trace.localDenom_of_foreign hnative] at hlocal
          exact .inr ⟨Trace.isNative_parse_fullPath hnative, (Except.ok.inj hlocal).symm⟩

/-- A denomination that spells a path is its own full path, and it is taken for the voucher of the
path. -/
theorem localDenom_of_fullPath_literal {k : ChannelKeeper} (hk : k.Held) {denom : Denom}
    {path : String} (hpath : k.fullPath denom = .ok path) (hdenom : denom.isPlain = false) :
    (Trace.parse path).localDenom = .ok (Trace.voucher denom.text) := by
  rcases eq_text_or_voucher_of_fullPath hk hpath with rfl | ⟨-, rfl⟩
  · rw [Trace.localDenom_of_foreign hdenom, Trace.fullPath_parse]
  · rw [Trace.isPlain_voucher] at hdenom
    cases hdenom

/-- **The full path of a token leads back to it exactly if its denomination reads as one of this
chain.** -/
theorem localDenom_of_fullPath_iff {k : ChannelKeeper} (hk : k.Held) {denom : Denom}
    {path : String} (hpath : k.fullPath denom = .ok path) :
    (Trace.parse path).localDenom = .ok denom ↔ denom.isPlain = true := by
  cases hplain : denom.isPlain with
  | false =>
      -- a voucher is never a denomination that spells a path
      rw [localDenom_of_fullPath_literal hk hpath hplain]
      refine iff_of_false (fun hlocal => ?_) Bool.false_ne_true
      rw [← Except.ok.inj hlocal, Trace.isPlain_voucher] at hplain
      cases hplain
  | true =>
      refine iff_of_true ?_ rfl
      rcases eq_text_or_voucher_of_fullPath hk hpath with rfl | ⟨hforeign, rfl⟩
      · exact Trace.localDenom_of_plain hplain
      · rw [Trace.localDenom_of_foreign hforeign, Trace.fullPath_parse]

/-- The full path of a token leads to some denomination, be it another one. -/
theorem exists_localDenom_of_fullPath {k : ChannelKeeper} (hk : k.Held) {denom : Denom}
    {path : String} (hpath : k.fullPath denom = .ok path) :
    ∃ d, (Trace.parse path).localDenom = .ok d := by
  cases hplain : denom.isPlain with
  | true => exact ⟨denom, (localDenom_of_fullPath_iff hk hpath).2 hplain⟩
  | false => exact ⟨_, localDenom_of_fullPath_literal hk hpath hplain⟩

/-! ## Traces that were learned -/

/-- Every stored trace is proper, has hops, and is held under the denomination it is stored
under. -/
def Traced (k : ChannelKeeper) : Prop :=
  ∀ denom trace, k.traces.get? denom = some trace →
    trace.Proper ∧ trace.isNative = false ∧ trace.localDenom = .ok denom

theorem Traced.held {k : ChannelKeeper} (hk : k.Traced) : k.Held := by
  intro denom trace hstored
  exact (hk denom trace hstored).2.2

theorem Traced.congr {k l : ChannelKeeper} (hk : k.Traced) (h : l.traces = k.traces) :
    l.Traced := by
  intro denom trace hstored
  rw [h] at hstored
  exact hk denom trace hstored

theorem traced_of_empty {k : ChannelKeeper} (h : k.traces = ∅) : k.Traced := by
  intro denom trace hstored
  rw [h] at hstored
  cases hstored

/-- The trace that a voucher comes in with may be learned. -/
theorem traced_afterArrival {k : ChannelKeeper} (hk : k.Traced) {packet : Packet}
    {path : String} {denom : Denom} (hlocal : (arrivalTrace packet path).localDenom = .ok denom) :
    (k.afterArrival packet path denom).Traced := by
  intro d trace hstored
  have hheld := held_afterArrival hk.held hlocal d trace hstored
  rcases traces_of_afterArrival hstored with hknown | ⟨-, -, rfl⟩
  · exact hk d trace hknown
  · exact ⟨Trace.proper_addHop (Trace.proper_parse path) _, Trace.isNative_addHop _ _, hheld⟩

/-- **The full path of a token leads back to it.** -/
theorem localDenom_of_fullPath {k : ChannelKeeper} (hk : k.Traced) {denom : Denom} {path : String}
    (hpath : k.fullPath denom = .ok path)
    (hdenom : denom.isVoucher = true ∨ denom.isPlain = true) :
    (Trace.parse path).localDenom = .ok denom := by
  apply (localDenom_of_fullPath_iff hk.held hpath).2
  rcases hdenom with hvoucher | hplain
  · -- only traces with hops are learned, and their vouchers spell none
    obtain ⟨trace, hstored, -⟩ := exists_trace_of_fullPath hvoucher hpath
    obtain ⟨-, hforeign, hlocal⟩ := hk denom trace hstored
    rw [Trace.localDenom_of_foreign hforeign] at hlocal
    rw [← Except.ok.inj hlocal]
    exact Trace.isPlain_voucher _
  · exact hplain

end ChannelKeeper

end Interchain
