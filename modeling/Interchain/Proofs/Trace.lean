import Interchain.Address
import Interchain.Trace

/-!
# Paths and traces

A path and the trace that is read off it say the same: the trace spells the path
(`fullPath_parse`), and a hop in front of a path is a hop in front of its trace
(`parse_extend`). Traces that are read off their own path are proper; those read off a path are,
and they stay so when hops are put in front or taken off (`proper_addHop`, `proper_removeHop`).
A trace is proper exactly if its base spells no hops (`proper_iff`), so reading and spelling are
inverse to each other up to that (`parse_inverts_fullPath`).
-/

set_option autoImplicit false

namespace Interchain

/-- The path of a token after one more hop. -/
def Hop.extend (h : Hop) (path : String) : String :=
  String.ofList (h.toChars ++ '/' :: path.toList)

theorem Hop.extend_eq (h : Hop) (path : String) :
    h.extend path = h.port.text ++ "/" ++ h.channel.text ++ "/" ++ path := by
  apply String.toList_inj.1
  simp [Hop.extend, Hop.toChars]

/-- Whether a path starts with the hop and a slash. -/
def Hop.Leads (h : Hop) (path : String) : Prop :=
  ∃ rest, path = h.extend rest

/-- Whether a denomination of this chain reads as a token of this chain. -/
def Denom.isPlain (d : Denom) : Bool :=
  (Trace.parse d.text).isNative

/-- No slash is in an identifier, so a path is split between identifiers and not within them. -/
theorem slash_notMem_of_isIdentifier {least most : Nat} {s : String}
    (h : isIdentifier least most s = true) : '/' ∉ s.toList := by
  intro hslash
  simp only [isIdentifier, Bool.and_eq_true] at h
  exact absurd (List.all_eq_true.1 h.2 _ hslash) (by decide)

theorem slash_notMem_port (port : Port) : '/' ∉ port.text.toList :=
  slash_notMem_of_isIdentifier port.follows

theorem slash_notMem_channel (channel : Channel) : '/' ∉ channel.text.toList := by
  have hrule := channel.follows
  rw [Channel.rule, Bool.and_eq_true] at hrule
  exact slash_notMem_of_isIdentifier hrule.1

/-! ## Texts that are read -/

theorem Port.text_of_parse {s : String} {port : Port} (h : Port.parse s = .ok port) :
    port.text = s := by
  rw [Port.parse] at h
  split at h
  · rename_i hread
    cases h
    exact Validated.ofString?_eq_some_iff.1 hread
  · cases h

theorem Channel.text_of_parse {s : String} {channel : Channel}
    (h : Channel.parse s = .ok channel) : channel.text = s := by
  rw [Channel.parse] at h
  split at h
  · rename_i hread
    cases h
    exact Validated.ofString?_eq_some_iff.1 hread
  · cases h

theorem Denom.text_of_parse {s : String} {d : Denom} (h : Denom.parse s = .ok d) :
    d.text = s := by
  rw [Denom.parse] at h
  split at h
  · rename_i hread
    cases h
    exact Validated.ofString?_eq_some_iff.1 hread
  · cases h

theorem Address.text_of_parse {s : String} {a : Address} (h : Address.parse s = .ok a) :
    a.text = s := by
  rw [Address.parse] at h
  split at h
  · rename_i hread
    cases h
    exact Validated.ofString?_eq_some_iff.1 hread
  · cases h

/-- The account that a text names differs from those that it does not name. -/
theorem Address.ne_of_parse {s : String} {a b : Address} (h : Address.parse s = .ok a)
    (hne : Address.parse s ≠ .ok b) : a ≠ b := by
  rintro rfl
  exact hne h

namespace Trace

/-! ## Reading a path -/

theorem takeHops_hop {p c s : List Char} {rest : List (List Char)} {port : Port}
    {channel : Channel} (hp : Port.parse (String.ofList p) = .ok port)
    (hc : Channel.parse (String.ofList c) = .ok channel) :
    takeHops (p :: c :: s :: rest) =
      (⟨port, channel⟩ :: (takeHops (s :: rest)).1, (takeHops (s :: rest)).2) := by
  simp [takeHops, hp, hc]

theorem takeHops_stop {p c s : List Char} {rest : List (List Char)}
    (h : ∀ port channel, Port.parse (String.ofList p) = .ok port →
      Channel.parse (String.ofList c) = .ok channel → False) :
    takeHops (p :: c :: s :: rest) = ([], p :: c :: s :: rest) := by
  rw [takeHops]
  split
  · rename_i hp hc
    exact (h _ _ hp hc).elim
  · rfl

theorem takeHops_short {segments : List (List Char)}
    (h : ∀ p c s rest, segments = p :: c :: s :: rest → False) :
    takeHops segments = ([], segments) := by
  unfold takeHops
  split
  · exact (h _ _ _ _ rfl).elim
  · rfl

/-- The segments that hops do not take stay, and one at least. -/
theorem takeHops_ne_nil {segments : List (List Char)} (h : segments ≠ []) :
    (takeHops segments).2 ≠ [] := by
  induction segments using takeHops.induct with
  | case1 p c s rest port channel hc hp _ _ _ ih =>
      rw [takeHops_hop hp hc]
      exact ih (List.cons_ne_nil s rest)
  | case2 p c s rest hstop =>
      rw [takeHops_stop hstop]
      exact h
  | case3 segments hshort =>
      rw [takeHops_short hshort]
      exact h

/-- The hops and the segments behind them spell the segments. -/
theorem intercalate_takeHops (segments : List (List Char)) :
    ['/'].intercalate ((takeHops segments).1.map Hop.toChars ++ (takeHops segments).2) =
      ['/'].intercalate segments := by
  -- along the reading of hops: one more hop, no hop, or too few segments for one
  induction segments using takeHops.induct with
  | case1 p c s rest port channel hc hp _ _ _ ih =>
      rw [takeHops_hop hp hc]
      have hne := takeHops_ne_nil (List.cons_ne_nil s rest)
      rw [List.map_cons, List.cons_append,
        List.intercalate_cons_of_ne_nil (List.append_ne_nil_of_right_ne_nil _ hne), ih]
      simp [Hop.toChars, Port.text_of_parse hp, Channel.text_of_parse hc]
  | case2 p c s rest hstop => rw [takeHops_stop hstop]; rfl
  | case3 segments hshort => rw [takeHops_short hshort]; rfl

/-- A trace without hops spells its base. -/
theorem fullPath_of_native {t : Trace} (h : t.isNative = true) : t.fullPath = t.base := by
  have hhops : t.hops = [] := List.isEmpty_iff.1 h
  simp [fullPath, hhops]

theorem fullPath_addHop (t : Trace) (h : Hop) : (t.addHop h).fullPath = h.extend t.fullPath := by
  simp [fullPath, addHop, Hop.extend, List.intercalate_cons_of_ne_nil]

/-- Joining segments behind a list of others. -/
theorem intercalate_append {l m : List (List Char)} (hm : m ≠ []) :
    ['/'].intercalate (l ++ [['/'].intercalate m]) = ['/'].intercalate (l ++ m) := by
  induction l with
  | nil => simp
  | cons x l ih =>
      rw [List.cons_append, List.cons_append, List.intercalate_cons_of_ne_nil (by simp), ih,
        List.intercalate_cons_of_ne_nil (List.append_ne_nil_of_right_ne_nil _ hm)]

/-- **The trace of a path spells the path.** -/
@[simp]
theorem fullPath_parse (path : String) : (parse path).fullPath = path := by
  have hne := takeHops_ne_nil (List.splitOn_ne_nil '/' path.toList)
  rw [fullPath, parse]
  simp only [String.toList_ofList]
  rw [intercalate_append hne, intercalate_takeHops, List.intercalate_splitOn,
    String.ofList_toList]

/-- **A hop in front of a path is a hop in front of its trace.** -/
theorem parse_extend (h : Hop) (path : String) : parse (h.extend path) = (parse path).addHop h := by
  -- no slash is in a port or a channel, so they are the first two segments
  have hsegments : (h.extend path).toList.splitOn '/' =
      h.port.text.toList :: h.channel.text.toList :: path.toList.splitOn '/' := by
    rw [Hop.extend, Hop.toChars, String.toList_ofList, List.append_assoc, List.cons_append,
      List.splitOn_append_cons_self_of_not_mem (slash_notMem_port _),
      List.splitOn_append_cons_self_of_not_mem (slash_notMem_channel _)]
  obtain ⟨s, rest, hsplit⟩ :=
    List.exists_cons_of_ne_nil (List.splitOn_ne_nil '/' path.toList)
  unfold parse addHop
  have hport : Port.parse (String.ofList h.port.text.toList) = .ok h.port := by simp
  have hchannel : Channel.parse (String.ofList h.channel.text.toList) = .ok h.channel := by simp
  rw [hsegments, hsplit, takeHops_hop hport hchannel]

/-! ## Proper traces -/

/-- A trace that is read off the path that it spells. -/
def Proper (t : Trace) : Prop :=
  parse t.fullPath = t

/-- What is read off the path of a trace: its hops and, behind them, what its base spells. -/
theorem parse_fullPath (t : Trace) :
    parse t.fullPath = ⟨t.hops ++ (parse t.base).hops, (parse t.base).base⟩ := by
  obtain ⟨hops, base⟩ := t
  -- hop by hop, each of which is read off first
  induction hops with
  | nil =>
      rw [fullPath_of_native rfl]
      rfl
  | cons hop hops ih =>
      have hpath : (⟨hop :: hops, base⟩ : Trace).fullPath =
          hop.extend (⟨hops, base⟩ : Trace).fullPath := fullPath_addHop ⟨hops, base⟩ hop
      rw [hpath, parse_extend, ih]
      rfl

/-- **A trace is proper exactly if its base spells no hops.** -/
theorem proper_iff {t : Trace} : t.Proper ↔ (parse t.base).isNative = true := by
  constructor
  · intro h
    rw [Proper, parse_fullPath] at h
    have hhops : t.hops ++ (parse t.base).hops = t.hops := congrArg hops h
    rw [isNative, List.append_right_eq_self.1 hhops]
    rfl
  · intro h
    have hhops : (parse t.base).hops = [] := List.isEmpty_iff.1 h
    have hbase : (parse t.base).base = t.base := by
      rw [← fullPath_of_native h, fullPath_parse]
    rw [Proper, parse_fullPath, hhops, hbase, List.append_nil]

theorem proper_parse (path : String) : (parse path).Proper := by
  rw [Proper, fullPath_parse]

/-! ## Hops in front of a trace -/

/-- Taking off the hop that was put in front. -/
@[simp]
theorem removeHop_addHop (t : Trace) (h : Hop) : (t.addHop h).removeHop h = t := by
  simp [removeHop, startsWith, addHop]

/-- Putting the hop that was taken off in front again. -/
theorem addHop_removeHop {t : Trace} {h : Hop} (hstarts : t.startsWith h = true) :
    (t.removeHop h).addHop h = t := by
  rw [removeHop, if_pos hstarts]
  obtain ⟨hops, base⟩ := t
  cases hops with
  | nil => simp [startsWith] at hstarts
  | cons g hops =>
      have hg : g = h := by simpa [startsWith] using hstarts
      rw [hg]
      rfl

theorem base_removeHop (t : Trace) (h : Hop) : (t.removeHop h).base = t.base := by
  rw [removeHop]
  split
  · rfl
  · rfl

/-- The base stays, and it is what matters. -/
theorem proper_addHop {t : Trace} (ht : t.Proper) (h : Hop) : (t.addHop h).Proper := by
  rw [proper_iff] at ht ⊢
  exact ht

theorem proper_removeHop {t : Trace} (ht : t.Proper) (h : Hop) : (t.removeHop h).Proper := by
  rw [proper_iff] at ht ⊢
  rw [base_removeHop]
  exact ht

/-- **Reading a path and spelling a trace are inverse.** Every path is spelled by what is read off
it, and a trace is read off what it spells exactly if its base spells no hops. A port and a channel
in front of any text are read as one more hop, so putting a hop in front of what was read off a
path, spelling and reading commute, and taking the hop off again gives what was there. -/
theorem parse_inverts_fullPath :
    (∀ path : String, (parse path).fullPath = path) ∧
      (∀ t : Trace, parse t.fullPath = t ↔ (parse t.base).hops = []) ∧
      (∀ (port : Port) (channel : Channel) (path : String),
        parse (port.text ++ "/" ++ channel.text ++ "/" ++ path) =
          (parse path).addHop ⟨port, channel⟩) ∧
      (∀ (path : String) (h : Hop),
        ((parse path).addHop h).fullPath =
            h.port.text ++ "/" ++ h.channel.text ++ "/" ++ (parse path).fullPath ∧
          parse ((parse path).addHop h).fullPath = (parse (parse path).fullPath).addHop h) ∧
      ∀ (t : Trace) (h : Hop), (t.addHop h).removeHop h = t := by
  refine ⟨fullPath_parse, ?_, ?_, ?_, removeHop_addHop⟩
  · intro t
    exact proper_iff.trans List.isEmpty_iff
  · intro port channel path
    rw [← parse_extend, Hop.extend_eq]
  · intro path h
    rw [fullPath_addHop, parse_extend]
    exact ⟨h.extend_eq _, rfl⟩

/-- A base that spells a hop is read apart. -/
example : parse (⟨[], "transfer/channel-0/uatom"⟩ : Trace).fullPath ≠
    ⟨[], "transfer/channel-0/uatom"⟩ := by
  decide +kernel

/-! ## Local denominations -/

theorem isNative_addHop (t : Trace) (h : Hop) : (t.addHop h).isNative = false :=
  rfl

/-- What spells a foreign trace is read as a foreign trace. -/
theorem isNative_parse_fullPath {t : Trace} (h : t.isNative = false) :
    (parse t.fullPath).isNative = false := by
  have hhops : t.hops ≠ [] := List.isEmpty_eq_false_iff.1 h
  rw [parse_fullPath, isNative]
  simp [hhops]

theorem localDenom_of_native {t : Trace} (h : t.isNative = true) :
    t.localDenom = Denom.parse t.base :=
  if_pos h

theorem localDenom_of_foreign {t : Trace} (h : t.isNative = false) :
    t.localDenom = .ok (voucher t.fullPath) := by
  simp [localDenom, h]

/-- A token of this chain is held under its base. -/
theorem text_of_localDenom {t : Trace} {d : Denom} (hn : t.isNative = true)
    (h : t.localDenom = .ok d) : d.text = t.base := by
  rw [localDenom_of_native hn] at h
  exact Denom.text_of_parse h

theorem localDenom_of_plain {d : Denom} (h : d.isPlain = true) :
    (parse d.text).localDenom = .ok d := by
  have hbase : (parse d.text).base = d.text := by
    rw [← fullPath_of_native h, fullPath_parse]
  rw [localDenom_of_native h, hbase, Denom.parse_text]

@[simp]
theorem isVoucher_voucher (path : String) : (voucher path).isVoucher = true := by
  simp [Denom.isVoucher, voucher, voucherText]

/-- A voucher has too few segments to spell a hop. -/
theorem isPlain_voucher (path : String) : (voucher path).isPlain = true := by
  let hash := Text.Hex.upper (Sha256.digest (Text.bytes path))
  have hslash : '/' ∉ hash := by
    intro hmem
    have hall := Text.Hex.upper_all (p := fun c => c ≠ '/') (by decide)
      (Sha256.digest (Text.bytes path))
    simpa using List.all_eq_true.1 hall _ hmem
  have hsegments : (voucherText path).toList.splitOn '/' = [['i', 'b', 'c'], hash] := by
    have htext : (voucherText path).toList = ['i', 'b', 'c'] ++ '/' :: hash :=
      String.toList_ofList
    rw [htext, List.splitOn_append_cons_self_of_not_mem (by decide),
      List.splitOn_eq_singleton hslash]
  show (parse (voucherText path)).isNative = true
  rw [parse, hsegments, takeHops_short (by simp)]
  rfl

/-- A token that came in over a channel is held as a voucher. -/
theorem isVoucher_of_localDenom {t : Trace} {d : Denom} (hn : t.isNative = false)
    (h : t.localDenom = .ok d) : d.isVoucher = true := by
  rw [localDenom_of_foreign hn] at h
  cases h
  exact isVoucher_voucher _

/-- A token that is not held as a voucher is held under its path. -/
theorem fullPath_of_localDenom {t : Trace} {d : Denom} (hd : d.isVoucher = false)
    (h : t.localDenom = .ok d) : t.isNative = true ∧ t.fullPath = d.text := by
  cases hn : t.isNative with
  | true => exact ⟨rfl, by rw [fullPath_of_native hn, text_of_localDenom hn h]⟩
  | false =>
      rw [isVoucher_of_localDenom hn h] at hd
      cases hd

/-- Under a path a token of this chain is held if it is the path of the token. -/
theorem localDenom_eq_plain_iff {path : String} {d e : Denom} (hd : d.isVoucher = false)
    (hplain : d.isPlain = true) (h : (parse path).localDenom = .ok e) :
    e = d ↔ path = d.text := by
  constructor
  · rintro rfl
    rw [← (fullPath_of_localDenom hd h).2, fullPath_parse]
  · rintro rfl
    exact Except.ok.inj (h.symm.trans (localDenom_of_plain hplain))

end Trace

/-! ## Sides of a channel -/

/-- A token that comes home has come in over a channel. -/
theorem isNative_of_receiverIsSource {hop : Hop} {path : String}
    (h : receiverIsSource hop path = true) : (Trace.parse path).isNative = false := by
  rw [receiverIsSource, Trace.startsWith] at h
  cases hhops : (Trace.parse path).hops with
  | nil => simp [hhops] at h
  | cons hop hops => simp [Trace.isNative, hhops]

/-- A token that comes home has a path that starts with the hop. -/
theorem eq_extend_of_receiverIsSource {hop : Hop} {path : String}
    (h : receiverIsSource hop path = true) :
    path = hop.extend ((Trace.parse path).removeHop hop).fullPath := by
  rw [← Trace.fullPath_addHop, Trace.addHop_removeHop h, Trace.fullPath_parse]

/-- What has a hop in front of its path comes home over the hop. -/
theorem receiverIsSource_extend (hop : Hop) (path : String) :
    receiverIsSource hop (hop.extend path) = true := by
  simp [receiverIsSource, Trace.parse_extend, Trace.addHop, Trace.startsWith]

/-- **What comes home over a hop has the hop in front of its path.** -/
theorem receiverIsSource_iff_leads {hop : Hop} {path : String} :
    receiverIsSource hop path = true ↔ hop.Leads path := by
  constructor
  · intro h
    exact ⟨_, eq_extend_of_receiverIsSource h⟩
  · rintro ⟨rest, rfl⟩
    exact receiverIsSource_extend hop rest

/-- The hop leads a path exactly if the path starts with its text and a slash. -/
theorem Hop.leads_iff_startsWith {hop : Hop} {path : String} :
    hop.Leads path ↔ path.startsWith (hop.port.text ++ "/" ++ hop.channel.text ++ "/") = true := by
  rw [String.startsWith_string_iff]
  constructor
  · rintro ⟨rest, rfl⟩
    refine ⟨rest.toList, ?_⟩
    rw [← String.toList_append, Hop.extend_eq]
  · rintro ⟨rest, hrest⟩
    refine ⟨String.ofList rest, ?_⟩
    apply String.toList_inj.1
    rw [Hop.extend_eq, String.toList_append, String.toList_ofList, hrest]

/-- **Whether a token comes home is read off the front of its path as a text.** -/
theorem receiverIsSource_eq_startsWith (hop : Hop) (path : String) :
    receiverIsSource hop path =
      path.startsWith (hop.port.text ++ "/" ++ hop.channel.text ++ "/") := by
  rw [Bool.eq_iff_iff, receiverIsSource_iff_leads, Hop.leads_iff_startsWith]

theorem removeHop_extend (hop : Hop) (path : String) :
    (Trace.parse (hop.extend path)).removeHop hop = Trace.parse path := by
  rw [Trace.parse_extend, Trace.removeHop_addHop]

theorem senderIsSource_eq_false_iff {hop : Hop} {path : String} :
    senderIsSource hop path = false ↔ receiverIsSource hop path = true := by
  simp [senderIsSource]

/-- What has the hop in front of its path is from the other side. -/
theorem senderIsSource_eq_false_iff_leads {hop : Hop} {path : String} :
    senderIsSource hop path = false ↔ hop.Leads path :=
  senderIsSource_eq_false_iff.trans receiverIsSource_iff_leads

/-- A token of this chain is from this side of every channel. -/
theorem senderIsSource_of_plain {hop : Hop} {d : Denom} (h : d.isPlain = true) :
    senderIsSource hop d.text = true := by
  cases hside : senderIsSource hop d.text with
  | true => rfl
  | false =>
      have hforeign := isNative_of_receiverIsSource (senderIsSource_eq_false_iff.1 hside)
      rw [← hforeign]
      exact h

end Interchain
