import Interchain.Proofs.Form.Packets
import Interchain.Transfer.Module

/-!
# The shape of packet data

Packet data are read from the values of one shape and from no others (`PacketData.Shape`): an
object that names each of the four fields once, among any other members, or the list of the
four. `decodeData_reads_shape` says so of the bytes of a packet, whatever JSON text they are.
-/

set_option autoImplicit false

namespace Interchain

open Json

/-! ## Looking up fields -/

namespace Record

/-- Whether exactly one member has this name, and what it is. -/
def Once (ms : Record Json) (name : String) (v : Json) : Prop :=
  ms.filter (fun m => m.1 == name) = [(name, v)]

theorem filter_eq_nil_of_not_mem {r : Record Json} {name : String}
    (h : name ∉ r.map (·.1)) : r.filter (fun m => m.1 == name) = [] := by
  refine List.filter_eq_nil_iff.2 fun m hm heq => h ?_
  rw [← beq_iff_eq.1 heq]
  exact List.mem_map_of_mem hm

theorem once_cons_self {r : Record Json} {name : String} {u v : Json} :
    Once ((name, u) :: r) name v ↔ u = v ∧ r.filter (fun m => m.1 == name) = [] := by
  simp [Once]

theorem once_cons_of_ne {r : Record Json} {name key : String} (h : name ≠ key) {u v : Json} :
    Once ((key, u) :: r) name v ↔ r.Once name v := by
  simp [Once, h.symm]

/-- In a record without repeated names, a field is the only one of its name. -/
theorem once_of_lookup {r : Record Json} (hnodup : (r.map (·.1)).Nodup) {name : String} {v : Json}
    (h : r.lookup name = some v) : r.Once name v := by
  induction r with
  | nil => cases h
  | cons m r ih =>
      obtain ⟨key, u⟩ := m
      obtain ⟨hkey, hnodup⟩ := List.nodup_cons.1 hnodup
      rw [List.lookup_cons] at h
      by_cases hname : name = key
      · subst hname
        rw [beq_self_eq_true] at h
        exact once_cons_self.2 ⟨Option.some.inj h, filter_eq_nil_of_not_mem hkey⟩
      · rw [beq_false_of_ne hname] at h
        exact (once_cons_of_ne hname).2 (ih hnodup h)

theorem Once.lookup {r : Record Json} {name : String} {v : Json} (h : r.Once name v) :
    r.lookup name = some v := by
  induction r with
  | nil => cases h
  | cons m r ih =>
      obtain ⟨key, u⟩ := m
      rw [List.lookup_cons]
      by_cases hname : name = key
      · subst hname
        rw [beq_self_eq_true, (once_cons_self.1 h).1]
      · rw [beq_false_of_ne hname]
        exact ih ((once_cons_of_ne hname).1 h)

/-- A record is free of other members, but has those of its names. -/
theorem once_known {names : List String} {name : String} (h : name ∈ names) (ms : Record Json)
    (v : Json) : (known names ms).Once name v ↔ ms.Once name v := by
  have hfilter : (known names ms).filter (fun m => m.1 == name) =
      ms.filter fun m => m.1 == name := by
    rw [known, List.filter_filter]
    refine List.filter_congr fun m _ => ?_
    by_cases hm : m.1 = name
    · simp [hm, h]
    · simp [hm]
  rw [Once, Once, hfilter]

/-- No name is repeated in a record that has each of its names once. -/
theorem nodup_known {names : List String} {ms : Record Json}
    (h : ∀ name ∈ names, ∃ v, ms.Once name v) : ((known names ms).map (·.1)).Nodup := by
  rw [List.nodup_iff_count]
  intro name
  have hcount : ((known names ms).map (·.1)).count name =
      ((known names ms).filter fun m => m.1 == name).length := by
    rw [List.count_eq_length_filter, List.filter_map, List.length_map]
    rfl
  rw [hcount]
  by_cases hname : name ∈ names
  · obtain ⟨v, hv⟩ := h name hname
    rw [(once_known hname ms v).2 hv]
    exact Nat.le_refl 1
  · rw [filter_eq_nil_of_not_mem]
    · exact Nat.zero_le 1
    · intro hmem
      obtain ⟨m, hm, rfl⟩ := List.mem_map.1 hmem
      exact hname (List.contains_iff_mem.1 (List.mem_filter.1 hm).2)

theorem among_eq_some_iff {names : List String} {ms r : Record Json} :
    among names ms = some r ↔ ((known names ms).map (·.1)).Nodup ∧ known names ms = r := by
  rw [among]
  split
  · simp [*]
  · simp [*]

end Record

/-! ## The parts of packet data -/

theorem Json.text?_eq_some_iff {v : Json} {s : String} :
    Document.text? v = some s ↔ v = .text s := by
  cases v with
  | string content =>
      show Text.ofBytes? content = some s ↔ _
      rw [Text.ofBytes?_eq_some_iff, text]
      simp
  | null | bool _ | integer _ _ | real _ | array _ | object _ => exact ⟨nofun, nofun⟩

/-- An amount is written as one ASCII digit or more and read in base ten. -/
def Amount.WrittenAs (a : Amount) (digits : String) : Prop :=
  Numeral.isNumeral digits.toList = true ∧ a = Numeral.value digits.toList

theorem Amount.decode_eq_some_iff {v : Json} {a : Amount} :
    decode v = some a ↔ ∃ digits, v = .text digits ∧ a.WrittenAs digits := by
  have hparse : ∀ digits, (parse digits).toOption = some a ↔ a.WrittenAs digits := by
    intro digits
    rw [parse, Numeral.value?, WrittenAs]
    by_cases h : Numeral.isNumeral digits.toList = true
    · rw [if_pos h]
      simp [h, Except.toOption, eq_comm]
    · rw [if_neg h]
      simp [h, Except.toOption]
  simp only [decode, Document.parsed?, Option.bind_eq_bind, Option.bind_eq_some_iff,
    text?_eq_some_iff, hparse]

namespace PacketData

def names : List String :=
  ["denom", "amount", "sender", "receiver"]

/-- The values that say packet data. -/
inductive Shape : Json → PacketData → Prop
  /-- An object that has each of the four members once; others may stand among them. -/
  | object {ms : List (String × Json)} {d : PacketData} {digits : String} :
      Record.Once ms "denom" (.text d.denom) → Record.Once ms "amount" (.text digits) →
      Record.Once ms "sender" (.text d.sender) → Record.Once ms "receiver" (.text d.receiver) →
      d.amount.WrittenAs digits → Shape (.ofMembers ms) d
  /-- The list of the four. -/
  | list {d : PacketData} {digits : String} : d.amount.WrittenAs digits →
      Shape (.array [.text d.denom, .text digits, .text d.sender, .text d.receiver]) d

/-- What a record has to have to say packet data. -/
def SaidBy (r : Record Json) (d : PacketData) : Prop :=
  r.lookup "denom" = some (.text d.denom) ∧
    (∃ digits, r.lookup "amount" = some (.text digits) ∧ d.amount.WrittenAs digits) ∧
    r.lookup "sender" = some (.text d.sender) ∧ r.lookup "receiver" = some (.text d.receiver)

theorem decode_eq_some_iff {v : Json} {d : PacketData} :
    decode v = some d ↔ ∃ r, Record.ofDocument? names v = some r ∧ SaidBy r d := by
  simp only [decode, Record.field?, Option.bind_eq_bind, Option.bind_eq_some_iff,
    Option.pure_def, Option.some.injEq, Json.text?_eq_some_iff, Amount.decode_eq_some_iff]
  constructor
  · rintro ⟨r, hr, _, ⟨_, hdenom, rfl⟩, _, ⟨_, hamount, digits, rfl, hdigits⟩, _,
      ⟨_, hsender, rfl⟩, _, ⟨_, hreceiver, rfl⟩, rfl⟩
    exact ⟨r, hr, hdenom, ⟨digits, hamount, hdigits⟩, hsender, hreceiver⟩
  · rintro ⟨r, hr, hdenom, ⟨digits, hamount, hdigits⟩, hsender, hreceiver⟩
    exact ⟨r, hr, _, ⟨_, hdenom, rfl⟩, _, ⟨_, hamount, digits, rfl, hdigits⟩, _,
      ⟨_, hsender, rfl⟩, _, ⟨_, hreceiver, rfl⟩, rfl⟩

/-- An object says packet data if it has each of the four members once. -/
theorem decode_ofMembers_eq_some_iff {ms : List (String × Json)} {d : PacketData} :
    decode (ofMembers ms) = some d ↔ Shape (ofMembers ms) d := by
  have hrecord : ∀ r, Record.ofDocument? names (ofMembers ms) = some r ↔
      ((Record.known names ms).map (·.1)).Nodup ∧ Record.known names ms = r := by
    intro r
    rw [Record.ofDocument?_ofMembers]
    exact Record.among_eq_some_iff
  rw [decode_eq_some_iff]
  constructor
  · rintro ⟨r, hr, hdenom, ⟨digits, hamount, hdigits⟩, hsender, hreceiver⟩
    obtain ⟨hnodup, rfl⟩ := (hrecord r).1 hr
    have honce : ∀ name ∈ names, ∀ v, (Record.known names ms).lookup name = some v →
        Record.Once ms name v := fun name hname v h =>
      (Record.once_known hname ms v).1 (Record.once_of_lookup hnodup h)
    exact .object (honce "denom" (by decide) _ hdenom) (honce "amount" (by decide) _ hamount)
      (honce "sender" (by decide) _ hsender) (honce "receiver" (by decide) _ hreceiver) hdigits
  · intro h
    generalize hv : ofMembers ms = v at h
    cases h with
    | list => cases hv
    | @object ks _ digits hdenom hamount hsender hreceiver hdigits =>
        have hks : ms = ks := by
          have hmembers := members?_ofMembers ms
          rw [hv, members?_ofMembers] at hmembers
          exact (Option.some.inj hmembers).symm
        subst hks
        have hnodup : ((Record.known names ms).map (·.1)).Nodup := by
          refine Record.nodup_known fun name hname => ?_
          simp only [names, List.mem_cons, List.not_mem_nil, or_false] at hname
          rcases hname with rfl | rfl | rfl | rfl
          · exact ⟨_, hdenom⟩
          · exact ⟨_, hamount⟩
          · exact ⟨_, hsender⟩
          · exact ⟨_, hreceiver⟩
        have hlookup : ∀ name ∈ names, ∀ v, Record.Once ms name v →
            (Record.known names ms).lookup name = some v := fun name hname v h =>
          ((Record.once_known hname ms v).2 h).lookup
        exact ⟨_, (hrecord _).2 ⟨hnodup, rfl⟩, hlookup "denom" (by decide) _ hdenom,
          ⟨digits, hlookup "amount" (by decide) _ hamount, hdigits⟩,
          hlookup "sender" (by decide) _ hsender, hlookup "receiver" (by decide) _ hreceiver⟩

/-- A list says packet data if it has the four items. -/
theorem decode_array_eq_some_iff {vs : List Json} {d : PacketData} :
    decode (Json.array vs) = some d ↔ Shape (Json.array vs) d := by
  have hrecord : ∀ r, Record.ofDocument? names (Json.array vs) = some r ↔
      vs.length ≤ names.length ∧ names.zip vs = r := by
    intro r
    rw [Record.ofDocument?_items]
    simp
  rw [decode_eq_some_iff]
  constructor
  · rintro ⟨r, hr, hdenom, ⟨digits, hamount, hdigits⟩, hsender, hreceiver⟩
    obtain ⟨hlength, rfl⟩ := (hrecord r).1 hr
    -- a shorter list leaves a field without an item, and a longer one is no record
    match vs with
    | [] => cases hdenom
    | [a] => cases hamount
    | [a, b] => cases hsender
    | [a, b, c] => cases hreceiver
    | [a, b, c, e] =>
        cases hdenom
        cases hamount
        cases hsender
        cases hreceiver
        exact .list hdigits
    | _ :: _ :: _ :: _ :: _ :: _ =>
        simp only [names, List.length_cons, List.length_nil] at hlength
        omega
  · intro h
    generalize hv : Json.array vs = v at h
    cases h with
    | object => cases hv
    | @list _ digits hdigits =>
        cases hv
        exact ⟨names.zip _, (hrecord _).2 ⟨Nat.le_refl 4, rfl⟩, rfl, ⟨digits, rfl, hdigits⟩,
          rfl, rfl⟩

/-- **Packet data are read from the values of their shape and from no others.** -/
theorem decode_eq_some_iff_shape {v : Json} {d : PacketData} : decode v = some d ↔ Shape v d := by
  cases v with
  | array vs => exact decode_array_eq_some_iff
  | object ms =>
      cases hms : textMembers? ms with
      | some ts =>
          have hobject : Json.object ms = ofMembers ts := members?_eq_some_iff.1 hms
          rw [hobject]
          exact decode_ofMembers_eq_some_iff
      | none =>
          -- a key that is no text is that of no member
          constructor
          · intro h
            obtain ⟨r, hr, -⟩ := decode_eq_some_iff.1 h
            rw [Record.ofDocument?_object, hms] at hr
            cases hr
          · intro h
            generalize hv : Json.object ms = v at h
            cases h with
            | list => cases hv
            | object =>
                have hmembers := members?_eq_some_iff.2 hv
                have hnone : Document.members? (Json.object ms) = none := hms
                rw [hnone] at hmembers
                cases hmembers
  | null | bool _ | integer _ _ | real _ | string _ =>
      constructor
      · intro h
        obtain ⟨r, hr, -⟩ := decode_eq_some_iff.1 h
        cases hr
      · nofun

/-- Neither the order of members nor those of other names matter. -/
theorem decode_ofMembers_congr {ms ks : List (String × Json)}
    (h : (Record.known names ms).Perm (Record.known names ks)) :
    decode (ofMembers ms) = decode (ofMembers ks) := by
  have hdecode : ∀ v : Json, decode v = (Record.ofDocument? names v).bind _ := fun _ => rfl
  rw [hdecode, hdecode, Record.ofDocument?_ofMembers, Record.ofDocument?_ofMembers]
  refine Record.among_perm ?_ h
  intro r s hagree
  simp only [hagree.field? .text, hagree.field? Amount.lawful.orderless]

end PacketData

/-! ## The bytes of a packet -/

/-- What a reader of packets makes of their bytes. -/
structure ReadsShape (read : Packet → Except TransferError PacketData) : Prop where
  accepted : ∀ (p : Packet) (v : Json), Spells (.element v) p.data →
    ∀ d, read p = .ok d ↔ PacketData.Shape v d
  refused : ∀ (p : Packet) (v : Json), Spells (.element v) p.data →
    (∀ d, ¬ PacketData.Shape v d) → ∃ cause, read p = .error (.invalidPacketData cause)
  /-- Bytes that are no text of any value. -/
  malformed : ∀ p : Packet, (∀ v, ¬ Spells (.element v) p.data) →
    ∃ cause, read p = .error (.invalidPacketData cause)
  /-- Blanks and spellings do not matter. -/
  sameValue : ∀ (p q : Packet) (v : Json), Spells (.element v) p.data →
    Spells (.element v) q.data → read p = read q
  /-- Nor do the order of members and those of other names. -/
  sameFields : ∀ (p q : Packet) (ms ks : List (String × Json)),
    (Record.known PacketData.names ms).Perm (Record.known PacketData.names ks) →
    Spells (.element (.ofMembers ms)) p.data → Spells (.element (.ofMembers ks)) q.data →
    read p = read q

/-- The data that a packet says are those of the value that its bytes are a text of. -/
theorem Packet.decodeData_of_spells {p : Packet} {v : Json} (h : Spells (.element v) p.data) :
    p.decodeData = match PacketData.decode v with
      | some d => .ok d
      | none => .error (.invalidPacketData "malformed JSON") := by
  rw [decodeData, PacketData.ofBytes?, read?_eq_some_iff.2 h]
  rfl

/-- **A packet is decoded if its bytes are a text of a value of the right shape, to the data that
the value says, and refused as invalid if they are not.** -/
theorem decodeData_reads_shape : ReadsShape Packet.decodeData where
  accepted p v h d := by
    rw [Packet.decodeData_of_spells h, ← PacketData.decode_eq_some_iff_shape]
    cases PacketData.decode v <;> simp
  refused p v h hno := by
    have hnone : PacketData.decode v = none :=
      Option.eq_none_iff_forall_ne_some.2 fun d hd =>
        hno d (PacketData.decode_eq_some_iff_shape.1 hd)
    exact ⟨_, by rw [Packet.decodeData_of_spells h, hnone]⟩
  malformed p h := by
    have hnone : read? p.data = none :=
      Option.eq_none_iff_forall_ne_some.2 fun v hv => h v (read?_eq_some_iff.1 hv)
    exact ⟨_, by rw [Packet.decodeData, PacketData.ofBytes?, hnone]; rfl⟩
  sameValue p q v hp hq := by
    rw [Packet.decodeData_of_spells hp, Packet.decodeData_of_spells hq]
  sameFields p q ms ks h hp hq := by
    rw [Packet.decodeData_of_spells hp, Packet.decodeData_of_spells hq,
      PacketData.decode_ofMembers_congr h]

end Interchain
