/-!
# Finite maps in key order

A finite map is a list of entries whose keys ascend strictly, so it has one entry a key and is
determined by its lookups (`FiniteMap.ext`). What an operation does to the lookups is said by
`get?_empty`, `get?_insert` and `get?_erase`.
-/

set_option autoImplicit false

namespace Interchain

universe u v

/-- A map from finitely many keys to values, kept in ascending key order. -/
structure FiniteMap (κ : Type u) (α : Type v) [Ord κ] where
  toList : List (κ × α)
  ascending : toList.Pairwise fun e f => compare e.1 f.1 = .lt

namespace FiniteMap

variable {κ : Type u} {α : Type v} [Ord κ]

/-- The entries with the value at `k` replaced or, at its place in the order, added. -/
def insertEntry (k : κ) (v : α) : List (κ × α) → List (κ × α)
  | [] => [(k, v)]
  | e :: es =>
      match compare k e.1 with
      | .lt => (k, v) :: e :: es
      | .eq => (k, v) :: es
      | .gt => e :: insertEntry k v es

theorem mem_insertEntry {k : κ} {v : α} {e : κ × α} {es : List (κ × α)}
    (h : e ∈ insertEntry k v es) : e = (k, v) ∨ e ∈ es := by
  induction es with
  | nil => simpa [insertEntry] using h
  | cons f es ih =>
      unfold insertEntry at h
      split at h
      · simpa using h
      · rcases List.mem_cons.1 h with h | h
        · exact .inl h
        · exact .inr (List.mem_cons_of_mem _ h)
      · rcases List.mem_cons.1 h with h | h
        · exact .inr (h ▸ List.mem_cons_self)
        · exact (ih h).imp_right (List.mem_cons_of_mem _)

theorem ascending_insertEntry [Std.TransOrd κ] (k : κ) (v : α) {es : List (κ × α)}
    (h : es.Pairwise fun e f => compare e.1 f.1 = .lt) :
    (insertEntry k v es).Pairwise fun e f => compare e.1 f.1 = .lt := by
  induction es with
  | nil => simp [insertEntry]
  | cons e es ih =>
      have hcons := List.pairwise_cons.1 h
      unfold insertEntry
      split
      · rename_i hk
        refine List.pairwise_cons.2 ⟨fun f hf => ?_, h⟩
        rcases List.mem_cons.1 hf with rfl | hf
        · exact hk
        · exact Std.TransCmp.lt_trans hk (hcons.1 f hf)
      · rename_i hk
        refine List.pairwise_cons.2 ⟨fun f hf => ?_, hcons.2⟩
        exact Std.TransCmp.lt_of_eq_of_lt hk (hcons.1 f hf)
      · rename_i hk
        refine List.pairwise_cons.2 ⟨fun f hf => ?_, ih hcons.2⟩
        rcases mem_insertEntry hf with rfl | hf
        · exact Std.OrientedCmp.lt_of_gt hk
        · exact hcons.1 f hf

instance : EmptyCollection (FiniteMap κ α) := ⟨⟨[], List.Pairwise.nil⟩⟩

instance : Inhabited (FiniteMap κ α) := ⟨∅⟩

theorem toList_inj {m n : FiniteMap κ α} (h : m.toList = n.toList) : m = n := by
  cases m
  cases n
  cases h
  rfl

instance [DecidableEq κ] [DecidableEq α] : DecidableEq (FiniteMap κ α) := fun m n =>
  decidable_of_iff (m.toList = n.toList) ⟨toList_inj, fun h => h ▸ rfl⟩

/-- The value of the first entry at `k`. -/
def lookupEntry [DecidableEq κ] (k : κ) : List (κ × α) → Option α
  | [] => none
  | e :: es => if k = e.1 then some e.2 else lookupEntry k es

/-- The value at a key. -/
def get? [DecidableEq κ] (m : FiniteMap κ α) (k : κ) : Option α :=
  lookupEntry k m.toList

/-- The map with the value at `k` set to `v`. -/
def insert [Std.TransOrd κ] (m : FiniteMap κ α) (k : κ) (v : α) : FiniteMap κ α :=
  ⟨insertEntry k v m.toList, ascending_insertEntry k v m.ascending⟩

/-- The map without the entry at `k`. -/
def erase [DecidableEq κ] (m : FiniteMap κ α) (k : κ) : FiniteMap κ α :=
  ⟨m.toList.filter fun e => e.1 ≠ k, m.ascending.filter _⟩

def contains [DecidableEq κ] (m : FiniteMap κ α) (k : κ) : Bool :=
  (m.get? k).isSome

def keys (m : FiniteMap κ α) : List κ :=
  m.toList.map (·.1)

def values (m : FiniteMap κ α) : List α :=
  m.toList.map (·.2)

def size (m : FiniteMap κ α) : Nat :=
  m.toList.length

def isEmpty (m : FiniteMap κ α) : Bool :=
  m.toList.isEmpty

section Lookup

variable [DecidableEq κ]

@[simp]
theorem get?_empty (k : κ) : (∅ : FiniteMap κ α).get? k = none :=
  rfl

theorem lookupEntry_insertEntry [Std.LawfulEqOrd κ] (k l : κ) (v : α) (es : List (κ × α)) :
    lookupEntry l (insertEntry k v es) = if l = k then some v else lookupEntry l es := by
  induction es with
  | nil => rfl
  | cons e es ih =>
      unfold insertEntry
      split
      · rfl
      · rename_i hk
        have hk : k = e.1 := Std.LawfulEqOrd.eq_of_compare hk
        by_cases h : l = k
        · simp [lookupEntry, h]
        · simp [lookupEntry, h, ← hk]
      · rename_i hk
        have hk : k ≠ e.1 := by
          rintro rfl
          simp [Std.ReflCmp.compare_self] at hk
        by_cases h : l = k
        · subst h
          simp [lookupEntry, hk, ih]
        · simp [lookupEntry, h, ih]

@[simp]
theorem get?_insert [Std.TransOrd κ] [Std.LawfulEqOrd κ] (m : FiniteMap κ α) (k l : κ) (v : α) :
    (m.insert k v).get? l = if l = k then some v else m.get? l :=
  lookupEntry_insertEntry k l v m.toList

omit [Ord κ] in
theorem lookupEntry_filter_ne (k l : κ) (es : List (κ × α)) :
    lookupEntry l (es.filter fun e => e.1 ≠ k) = if l = k then none else lookupEntry l es := by
  induction es with
  | nil => simp [lookupEntry]
  | cons e es ih =>
      by_cases hk : e.1 = k
      · rw [List.filter_cons_of_neg (by simpa using hk), ih]
        by_cases h : l = k
        · simp [h]
        · simp [h, lookupEntry, hk]
      · rw [List.filter_cons_of_pos (by simpa using hk)]
        by_cases h : l = e.1
        · simp [h, hk, lookupEntry]
        · simp only [lookupEntry, h, if_false]
          exact ih

@[simp]
theorem get?_erase (m : FiniteMap κ α) (k l : κ) :
    (m.erase k).get? l = if l = k then none else m.get? l :=
  lookupEntry_filter_ne k l m.toList

theorem lookupEntry_eq_some_iff [Std.LawfulEqOrd κ] {es : List (κ × α)}
    (h : es.Pairwise fun e f => compare e.1 f.1 = .lt) {k : κ} {v : α} :
    lookupEntry k es = some v ↔ (k, v) ∈ es := by
  induction es with
  | nil => simp [lookupEntry]
  | cons e es ih =>
      have hcons := List.pairwise_cons.1 h
      by_cases hk : k = e.1
      · subst hk
        constructor
        · intro hv
          have hv : e.2 = v := by simpa [lookupEntry] using hv
          exact hv ▸ List.mem_cons_self
        · intro hv
          rcases List.mem_cons.1 hv with hv | hv
          · have hv : e.2 = v := by rw [← hv]
            simp [lookupEntry, hv]
          · have := hcons.1 _ hv
            simp [Std.ReflCmp.compare_self] at this
      · have hne : (k, v) ≠ e := fun he => hk (by rw [← he])
        simp [lookupEntry, hk, ih hcons.2, hne]

theorem get?_eq_some_iff [Std.LawfulEqOrd κ] {m : FiniteMap κ α} {k : κ} {v : α} :
    m.get? k = some v ↔ (k, v) ∈ m.toList :=
  lookupEntry_eq_some_iff m.ascending

end Lookup

/-- Ascending lists with the same entries are equal. -/
theorem eq_of_ascending [Std.TransOrd κ] {es fs : List (κ × α)}
    (he : es.Pairwise fun e f => compare e.1 f.1 = .lt)
    (hf : fs.Pairwise fun e f => compare e.1 f.1 = .lt)
    (h : ∀ e, e ∈ es ↔ e ∈ fs) : es = fs := by
  have irrefl : ∀ e : κ × α, ¬ compare e.1 e.1 = .lt := fun e => by
    simp [Std.ReflCmp.compare_self]
  induction es generalizing fs with
  | nil =>
      cases fs with
      | nil => rfl
      | cons f fs => exact absurd ((h f).2 List.mem_cons_self) List.not_mem_nil
  | cons e es ih =>
      cases fs with
      | nil => exact absurd ((h e).1 List.mem_cons_self) List.not_mem_nil
      | cons f fs =>
          have hecons := List.pairwise_cons.1 he
          have hfcons := List.pairwise_cons.1 hf
          have hef : e = f := by
            rcases List.mem_cons.1 ((h e).1 List.mem_cons_self) with hef | hef
            · exact hef
            rcases List.mem_cons.1 ((h f).2 List.mem_cons_self) with hfe | hfe
            · exact hfe.symm
            exact absurd (Std.TransCmp.lt_trans (hfcons.1 e hef) (hecons.1 f hfe)) (irrefl f)
          subst hef
          have htail : ∀ x, x ∈ es ↔ x ∈ fs := by
            intro x
            constructor
            · intro hx
              rcases List.mem_cons.1 ((h x).1 (List.mem_cons_of_mem _ hx)) with rfl | hx'
              · exact absurd (hecons.1 x hx) (irrefl x)
              · exact hx'
            · intro hx
              rcases List.mem_cons.1 ((h x).2 (List.mem_cons_of_mem _ hx)) with rfl | hx'
              · exact absurd (hfcons.1 x hx) (irrefl x)
              · exact hx'
          rw [ih hecons.2 hfcons.2 htail]

/-- A finite map is determined by its lookups. -/
@[ext]
theorem ext [DecidableEq κ] [Std.TransOrd κ] [Std.LawfulEqOrd κ] {m n : FiniteMap κ α}
    (h : ∀ k, m.get? k = n.get? k) : m = n := by
  refine toList_inj (eq_of_ascending m.ascending n.ascending fun e => ?_)
  rw [← get?_eq_some_iff, ← get?_eq_some_iff, h]

end FiniteMap

end Interchain
