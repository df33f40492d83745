import Interchain.Json.Document
import Interchain.Proofs.Form.Records

/-!
# Reading records from JSON

What is read of the JSON values of texts, numbers and objects, and what the order of members has
to do with it: nothing. `Reordered` relates the values that differ in the order of members alone,
at any depth. A reader is `Orderless` if it does not tell them apart, and readers of records are
put together from orderless ones (`Orderless.record`).
-/

set_option autoImplicit false

namespace Interchain

/-! ## Members in any order -/

namespace Json

/-- Values that differ in nothing but the order of members in objects. -/
inductive Reordered : Json → Json → Prop
  | refl (v : Json) : Reordered v v
  | trans {u v w : Json} : Reordered u v → Reordered v w → Reordered u w
  | members {ms ks : List (List UInt8 × Json)} : ms.Perm ks →
      Reordered (.object ms) (.object ks)
  | member {v w : Json} (before : List (List UInt8 × Json)) (key : List UInt8)
      (after : List (List UInt8 × Json)) : Reordered v w →
      Reordered (.object (before ++ (key, v) :: after)) (.object (before ++ (key, w) :: after))
  | item {v w : Json} (before after : List Json) : Reordered v w →
      Reordered (.array (before ++ v :: after)) (.array (before ++ w :: after))

theorem Reordered.null_iff {v w : Json} (h : Reordered v w) : v = .null ↔ w = .null := by
  induction h with
  | refl => exact Iff.rfl
  | trans _ _ ih₁ ih₂ => exact ih₁.trans ih₂
  | members => simp
  | member => simp
  | item => simp

/-- The object with the same members in another order. -/
theorem reordered_ofMembers {ms ks : List (String × Json)} (h : ms.Perm ks) :
    Reordered (ofMembers ms) (ofMembers ks) :=
  .members (h.map _)

/-! ## Objects with members under texts -/

theorem textMembers?_eq_some_iff {ms : List (List UInt8 × Json)} {ts : List (String × Json)} :
    textMembers? ms = some ts ↔ ms = ts.map fun t => (Text.bytes t.1, t.2) := by
  induction ms generalizing ts with
  | nil =>
      rw [textMembers?, List.mapM_nil]
      cases ts <;> simp
  | cons m ms ih =>
      obtain ⟨key, v⟩ := m
      rw [textMembers?, List.mapM_cons, ← textMembers?]
      simp only [Option.bind_eq_bind, Option.bind_eq_some_iff, Option.map_eq_some_iff,
        Option.pure_def, Option.some.injEq, ih, Text.ofBytes?_eq_some_iff]
      constructor
      · rintro ⟨t, ⟨s, rfl, rfl⟩, ts, rfl, rfl⟩
        rfl
      · intro h
        cases ts with
        | nil => cases h
        | cons t ts =>
            simp only [List.map_cons, List.cons.injEq, Prod.mk.injEq] at h
            obtain ⟨⟨rfl, rfl⟩, rfl⟩ := h
            exact ⟨t, ⟨t.1, rfl, rfl⟩, ts, rfl, rfl⟩

theorem members?_eq_some_iff {v : Json} {ms : List (String × Json)} :
    Document.members? v = some ms ↔ v = ofMembers ms := by
  cases v with
  | object ks =>
      show textMembers? ks = some ms ↔ _
      rw [textMembers?_eq_some_iff, ofMembers]
      simp
  | null | bool _ | integer _ _ | real _ | string _ | array _ =>
      exact ⟨nofun, nofun⟩

@[simp]
theorem members?_ofMembers (ms : List (String × Json)) :
    Document.members? (ofMembers ms) = some ms :=
  members?_eq_some_iff.2 rfl

@[simp]
theorem text?_text (s : String) : Document.text? (text s) = some s :=
  Text.ofBytes?_bytes s

@[simp]
theorem choice?_text (s : String) : Document.choice? (text s) = some s :=
  Text.ofBytes?_bytes s

theorem nat?_ofNat {bound n : Nat} (h : n < bound) : Document.nat? bound (ofNat n) = some n :=
  Document.nat?_of_integer (d := ofNat n) rfl h

@[simp]
theorem uint8?_ofNat (n : UInt8) : Document.uint8? (ofNat n.toNat) = some n := by
  rw [Document.uint8?, nat?_ofNat n.toNat_lt, Option.map_some, UInt8.ofNat_toNat]

@[simp]
theorem uint32?_ofNat (n : UInt32) : Document.uint32? (ofNat n.toNat) = some n := by
  rw [Document.uint32?, nat?_ofNat n.toNat_lt, Option.map_some, UInt32.ofNat_toNat]

@[simp]
theorem uint64?_ofNat (n : UInt64) : Document.uint64? (ofNat n.toNat) = some n := by
  rw [Document.uint64?, nat?_ofNat n.toNat_lt, Option.map_some, UInt64.ofNat_toNat]

end Json

open Json

/-! ## Readers that do not tell reordered values apart -/

/-- Whether the reader finds the same in values that differ in the order of members alone. -/
def Orderless {α : Type} (decode : Json → Option α) : Prop :=
  ∀ v w, Reordered v w → decode v = decode w

namespace Orderless

variable {α : Type}

/-- A reader that takes neither objects nor arrays has no order to mind. -/
theorem of_scalar {decode : Json → Option α} (harray : ∀ vs, decode (.array vs) = none)
    (hobject : ∀ ms, decode (.object ms) = none) : Orderless decode := by
  intro v w h
  induction h with
  | refl => rfl
  | trans _ _ ih₁ ih₂ => exact ih₁.trans ih₂
  | members => rw [hobject, hobject]
  | member => rw [hobject, hobject]
  | item => rw [harray, harray]

theorem text : Orderless Document.text? :=
  of_scalar (fun _ => rfl) fun _ => rfl

theorem bool : Orderless Document.bool? :=
  of_scalar (fun _ => rfl) fun _ => rfl

theorem parsed {ε : Type} (parse : String → Except ε α) : Orderless (Document.parsed? parse) :=
  of_scalar (fun _ => rfl) fun _ => rfl

theorem uint8 : Orderless Document.uint8? :=
  of_scalar (fun _ => rfl) fun _ => rfl

theorem uint32 : Orderless Document.uint32? :=
  of_scalar (fun _ => rfl) fun _ => rfl

theorem uint64 : Orderless Document.uint64? :=
  of_scalar (fun _ => rfl) fun _ => rfl

/-- An alternative is an object with one member, which is null. -/
theorem choice?_object {ms : List (List UInt8 × Json)} (h : ∀ key, ms ≠ [(key, .null)]) :
    Document.choice? (Json.object ms) = none := by
  rcases ms with _ | ⟨⟨key, v⟩, _ | ⟨m, ms⟩⟩
  · rfl
  · cases v with
    | null => exact absurd rfl (h key)
    | _ => rfl
  · cases v <;> rfl

theorem choice : Orderless Document.choice? := by
  intro v w h
  induction h with
  | refl => rfl
  | trans _ _ ih₁ ih₂ => exact ih₁.trans ih₂
  | item => rfl
  | @members ms ks hperm =>
      by_cases hms : ∃ key, ms = [(key, .null)]
      · obtain ⟨key, rfl⟩ := hms
        rw [List.singleton_perm.1 hperm]
      · have hks : ∀ key, ks ≠ [(key, .null)] := by
          rintro key rfl
          exact hms ⟨key, List.perm_singleton.1 hperm⟩
        rw [choice?_object fun key h => hms ⟨key, h⟩, choice?_object hks]
  | @member v w before key after h _ =>
      by_cases hv : v = .null
      · rw [hv, h.null_iff.1 hv]
      · -- neither object is that of an alternative
        have hno : ∀ u : Json, u ≠ .null → ∀ wanted, before ++ (key, u) :: after ≠
            [(wanted, .null)] := by
          intro u hu wanted heq
          have hmem : (key, u) ∈ [(wanted, Json.null)] := heq ▸ by simp
          simp only [List.mem_singleton, Prod.mk.injEq] at hmem
          exact hu hmem.2
        have hw : w ≠ .null := fun hw => hv (h.null_iff.2 hw)
        rw [choice?_object (hno v hv), choice?_object (hno w hw)]

theorem bind {β : Type} {decode : Json → Option α} (h : Orderless decode) (f : α → Option β) :
    Orderless fun v => (decode v).bind f := by
  intro v w hvw
  show (decode v).bind f = (decode w).bind f
  rw [h v w hvw]

theorem list {decode : Json → Option α} (h : Orderless decode) :
    Orderless (Document.list? decode) := by
  intro v w hvw
  induction hvw with
  | refl => rfl
  | trans _ _ ih₁ ih₂ => exact ih₁.trans ih₂
  | members => rfl
  | member => rfl
  | @item v w before after hvw _ =>
      show (before ++ v :: after).mapM decode = (before ++ w :: after).mapM decode
      rw [List.mapM_append, List.mapM_append, List.mapM_cons, List.mapM_cons, h v w hvw]

end Orderless

/-! ## Records -/

namespace Record

variable {α : Type}

/-- Whether both records have the same fields, up to the order of members in their values. -/
def Agree (r s : Record Json) : Prop :=
  ∀ name, Option.Rel Reordered (r.lookup name) (s.lookup name)

theorem Agree.refl (r : Record Json) : Agree r r := by
  intro name
  cases r.lookup name with
  | none => exact .none
  | some v => exact .some (.refl v)

theorem Agree.field? {r s : Record Json} (h : Agree r s) {decode : Json → Option α}
    (hdecode : Orderless decode) (name : String) :
    r.field? name decode = s.field? name decode := by
  rw [Record.field?, Record.field?]
  have hname := h name
  generalize r.lookup name = found at hname ⊢
  generalize s.lookup name = other at hname ⊢
  cases hname with
  | some hvw => exact hdecode _ _ hvw
  | none => rfl

theorem Agree.fieldOr? {r s : Record Json} (h : Agree r s) {decode : Json → Option α}
    (hdecode : Orderless decode) (name : String) (default : α) :
    r.fieldOr? name default decode = s.fieldOr? name default decode := by
  rw [Record.fieldOr?, Record.fieldOr?]
  have hname := h name
  generalize r.lookup name = found at hname ⊢
  generalize s.lookup name = other at hname ⊢
  cases hname with
  | some hvw => exact hdecode _ _ hvw
  | none => rfl

theorem Agree.cons {r s : Record Json} (h : Agree r s) (m : String × Json) :
    Agree (m :: r) (m :: s) := by
  intro name
  obtain ⟨key, u⟩ := m
  rw [List.lookup_cons, List.lookup_cons]
  cases name == key with
  | true => exact .some (.refl u)
  | false => exact h name

/-- Records that differ in one field agree if the two values do. -/
theorem agree_change {v w : Json} (h : Reordered v w) (before : Record Json) (name : String)
    (after : Record Json) :
    Agree (before ++ (name, v) :: after) (before ++ (name, w) :: after) := by
  induction before with
  | nil =>
      intro wanted
      rw [List.nil_append, List.nil_append, List.lookup_cons, List.lookup_cons]
      cases wanted == name with
      | true => exact .some h
      | false => exact Agree.refl after wanted
  | cons m before ih => exact ih.cons m

theorem agree_zip_change {v w : Json} (h : Reordered v w) (names : List String)
    (before after : List Json) :
    Agree (names.zip (before ++ v :: after)) (names.zip (before ++ w :: after)) := by
  induction before generalizing names with
  | nil =>
      cases names with
      | nil => exact Agree.refl []
      | cons name names => exact agree_change h [] name (names.zip after)
  | cons u before ih =>
      cases names with
      | nil => exact Agree.refl []
      | cons name names => exact (ih names).cons (name, u)

theorem lookup_perm {r s : Record Json} (h : r.Perm s) (hnodup : (r.map (·.1)).Nodup)
    (name : String) : r.lookup name = s.lookup name := by
  induction h with
  | nil => rfl
  | cons m _ ih =>
      rw [List.lookup_cons, List.lookup_cons, ih (List.nodup_cons.1 hnodup).2]
  | swap m k rest =>
      rw [List.lookup_cons, List.lookup_cons, List.lookup_cons, List.lookup_cons]
      -- no name is that of both
      have hne : k.1 ≠ m.1 := by
        simp only [List.map_cons, List.nodup_cons, List.mem_cons, not_or] at hnodup
        exact hnodup.1.1
      by_cases hk : name = k.1
      · have hm : (name == m.1) = false := by rw [hk]; exact beq_false_of_ne hne
        rw [hm]
      · have hk : (name == k.1) = false := beq_false_of_ne hk
        rw [hk]
  | trans h₁ _ ih₁ ih₂ =>
      exact (ih₁ hnodup).trans (ih₂ ((h₁.map _).nodup_iff.1 hnodup))

theorem ofDocument?_items (names : List String) (vs : List Json) :
    ofDocument? names (.array vs) =
      if vs.length ≤ names.length then some (names.zip vs) else none := by
  show (if false || decide (vs.length ≤ names.length) then _ else _) = _
  simp

/-- The record of the list of all the fields. -/
theorem ofDocument?_array {names : List String} {fields : Record Json}
    (hnames : fields.map (·.1) = names) :
    ofDocument? names (.array (fields.map (·.2))) = some fields := by
  subst hnames
  rw [ofDocument?_items, if_pos (by simp)]
  simp [List.zip_map']

/-- The members that a record over the names takes from an object. -/
def known (names : List String) (ms : Record Json) : Record Json :=
  ms.filter fun m => names.contains m.1

/-- The record over the names that members give. -/
def among (names : List String) (ms : Record Json) : Option (Record Json) :=
  if ((known names ms).map (·.1)).Nodup then some (known names ms) else none

theorem ofDocument?_object (names : List String) (ms : List (List UInt8 × Json)) :
    ofDocument? names (Json.object ms) = (textMembers? ms).bind (among names) := by
  have hmembers : Document.members? (Json.object ms) = textMembers? ms := rfl
  rw [ofDocument?, hmembers]
  cases textMembers? ms <;> rfl

theorem known_change (names : List String) (before : Record Json) (name : String) (v : Json)
    (after : Record Json) : known names (before ++ (name, v) :: after) =
      if names.contains name then known names before ++ (name, v) :: known names after
      else known names before ++ known names after := by
  rw [known, List.filter_append, List.filter_cons]
  by_cases h : names.contains name = true
  · rw [if_pos h, if_pos h]
    rfl
  · rw [if_neg h, if_neg h]
    rfl

theorem ofDocument?_ofMembers (names : List String) (ms : Record Json) :
    ofDocument? names (ofMembers ms) = among names ms := by
  rw [ofMembers, ofDocument?_object, textMembers?_eq_some_iff.2 rfl]
  rfl

end Record

namespace Json

/-- The same members in another order are under texts if these are. -/
theorem textMembers?_perm {ms ks : List (List UInt8 × Json)} {ts : List (String × Json)}
    (h : ms.Perm ks) (hts : textMembers? ms = some ts) :
    ∃ us, textMembers? ks = some us ∧ ts.Perm us := by
  let write := fun t : String × Json => (Text.bytes t.1, t.2)
  let read := fun m : List UInt8 × Json => ((Text.ofBytes? m.1).getD "", m.2)
  have hread : ∀ t, read (write t) = t := fun t => by simp [read, write]
  have hms : ms = ts.map write := textMembers?_eq_some_iff.1 hts
  refine ⟨ks.map read, textMembers?_eq_some_iff.2 ?_, ?_⟩
  · have hwrite : ∀ m ∈ ks, write (read m) = m := by
      intro m hm
      have hmem := h.mem_iff.2 hm
      rw [hms] at hmem
      obtain ⟨t, -, rfl⟩ := List.mem_map.1 hmem
      rw [hread]
    show ks = (ks.map read).map write
    rw [List.map_map]
    exact ((List.map_congr_left (g := id) hwrite).trans (List.map_id _)).symm
  · have hts : ts = ms.map read := by
      rw [hms, List.map_map]
      exact ((List.map_congr_left (g := id) fun t _ => hread t).trans (List.map_id _)).symm
    rw [hts]
    exact h.map read

theorem textMembers?_change (before : List (List UInt8 × Json)) (key : List UInt8) (v : Json)
    (after : List (List UInt8 × Json)) :
    textMembers? (before ++ (key, v) :: after) = (textMembers? before).bind fun tb =>
      (Text.ofBytes? key).bind fun s => (textMembers? after).map fun ta =>
        tb ++ (s, v) :: ta := by
  rw [textMembers?, List.mapM_append, List.mapM_cons, ← textMembers?, ← textMembers?]
  cases textMembers? before <;> cases Text.ofBytes? key <;> cases textMembers? after <;> rfl

end Json

namespace Record

variable {α : Type}

/-- Known members in another order give a record that is the same to every reader. -/
theorem among_perm {names : List String} {body : Record Json → Option α}
    (hbody : ∀ r s, Agree r s → body r = body s) {ms ks : Record Json}
    (hknown : (known names ms).Perm (known names ks)) :
    (among names ms).bind body = (among names ks).bind body := by
  have hnodup := (hknown.map (·.1)).nodup_iff
  rw [among, among]
  by_cases hms : ((known names ms).map (·.1)).Nodup
  · rw [if_pos hms, if_pos (hnodup.1 hms)]
    refine hbody _ _ fun name => ?_
    rw [lookup_perm hknown hms]
    exact Agree.refl _ name
  · rw [if_neg hms, if_neg fun hks => hms (hnodup.2 hks)]

theorem among_change {names : List String} {body : Record Json → Option α}
    (hbody : ∀ r s, Agree r s → body r = body s) {v w : Json} (h : Reordered v w)
    (before : Record Json) (name : String) (after : Record Json) :
    (among names (before ++ (name, v) :: after)).bind body =
      (among names (before ++ (name, w) :: after)).bind body := by
  simp only [among, known_change]
  by_cases hname : names.contains name = true
  · simp only [if_pos hname, List.map_append, List.map_cons]
    split
    · exact hbody _ _ (agree_change h _ name _)
    · rfl
  · simp only [if_neg hname]

end Record

namespace Orderless

open Record

variable {α : Type}

/-- What is made of a record minds no order if it depends on the fields alone. -/
theorem record (names : List String) {body : Record Json → Option α}
    (hbody : ∀ r s, Agree r s → body r = body s) :
    Orderless fun v => (ofDocument? names v).bind body := by
  intro v w h
  show (ofDocument? names v).bind body = (ofDocument? names w).bind body
  induction h with
  | refl => rfl
  | trans _ _ ih₁ ih₂ => exact ih₁.trans ih₂
  | @members ms ks hperm =>
      rw [ofDocument?_object, ofDocument?_object]
      cases hms : textMembers? ms with
      | none =>
          -- a key that is no text is there in the other order too
          have hks : textMembers? ks = none := by
            rw [Option.eq_none_iff_forall_ne_some]
            intro us hus
            obtain ⟨ts, hts, -⟩ := textMembers?_perm hperm.symm hus
            rw [hms] at hts
            cases hts
          rw [hks]
      | some ts =>
          obtain ⟨us, hus, htus⟩ := textMembers?_perm hperm hms
          rw [hus]
          exact among_perm hbody (htus.filter _)
  | @member v w before key after h _ =>
      rw [ofDocument?_object, ofDocument?_object, textMembers?_change, textMembers?_change]
      cases textMembers? before <;> cases Text.ofBytes? key <;> cases textMembers? after <;>
        first | rfl | exact among_change hbody h _ _ _
  | @item v w before after h _ =>
      have hlength : (before ++ w :: after).length = (before ++ v :: after).length := by simp
      rw [ofDocument?_items, ofDocument?_items, hlength]
      split
      · exact hbody _ _ (agree_zip_change h names before after)
      · rfl

end Orderless

end Interchain
