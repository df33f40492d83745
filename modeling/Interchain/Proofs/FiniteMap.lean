import Interchain.FiniteMap

/-!
# Lookups and sums in finite maps

What is found after a value was set or erased (`get?_insert_eq_some_iff`, `get?_erase_eq_some_iff`),
and the sum of a weight over the entries of a finite map. Setting the value at a key replaces the
weight of the value there (`sum_insert`), and erasing the key takes it away (`sum_erase`), so a sum
that is known before an operation is known after it.
-/

set_option autoImplicit false

namespace Interchain

namespace FiniteMap

variable {κ α : Type} [Ord κ]

/-! ## Lookups -/

theorem get?_insert_eq_some_iff [Std.TransOrd κ] [Std.LawfulEqOrd κ] [DecidableEq κ]
    {m : FiniteMap κ α} {k l : κ} {a b : α} :
    (m.insert k a).get? l = some b ↔ l = k ∧ a = b ∨ l ≠ k ∧ m.get? l = some b := by
  rw [get?_insert]
  by_cases h : l = k
  · simp [h]
  · simp [h]

theorem get?_erase_eq_some_iff [DecidableEq κ] {m : FiniteMap κ α} {k l : κ} {b : α} :
    (m.erase k).get? l = some b ↔ l ≠ k ∧ m.get? l = some b := by
  rw [get?_erase]
  by_cases h : l = k
  · simp [h]
  · simp [h]

/-! ## Sums -/

/-- The sum of a weight over entries. -/
def sumEntries (w : κ → α → Int) : List (κ × α) → Int
  | [] => 0
  | e :: es => w e.1 e.2 + sumEntries w es

/-- The sum of a weight over a map. -/
def sum (w : κ → α → Int) (m : FiniteMap κ α) : Int :=
  sumEntries w m.toList

/-- The weight of what is at a key, zero if nothing is there. -/
def weightAt [DecidableEq κ] (w : κ → α → Int) (m : FiniteMap κ α) (k : κ) : Int :=
  (m.get? k).elim 0 (w k)

theorem sum_nonneg {w : κ → α → Int} (hw : ∀ k a, 0 ≤ w k a) (m : FiniteMap κ α) :
    0 ≤ m.sum w := by
  rw [sum]
  induction m.toList with
  | nil => exact Int.le_refl 0
  | cons e es ih =>
      have he := hw e.1 e.2
      simp only [sumEntries]
      omega

theorem sum_zero (m : FiniteMap κ α) : m.sum (fun _ _ => 0) = 0 := by
  rw [sum]
  induction m.toList with
  | nil => rfl
  | cons e es ih =>
      rw [sumEntries, ih]
      rfl

section Lookup

variable [Std.LawfulEqOrd κ] [DecidableEq κ]

/-- Keys ascend, so nothing behind an entry has its key. -/
theorem lookupEntry_of_ascending {e : κ × α} {es : List (κ × α)}
    (h : (e :: es).Pairwise fun e f => compare e.1 f.1 = .lt) : lookupEntry e.1 es = none := by
  have hcons := List.pairwise_cons.1 h
  cases hv : lookupEntry e.1 es with
  | none => rfl
  | some a =>
      have hlt := hcons.1 _ ((lookupEntry_eq_some_iff hcons.2).1 hv)
      simp [Std.ReflCmp.compare_self] at hlt

theorem sumEntries_insertEntry [Std.TransOrd κ] (w : κ → α → Int) (k : κ) (a : α)
    {es : List (κ × α)} (h : es.Pairwise fun e f => compare e.1 f.1 = .lt) :
    sumEntries w (insertEntry k a es) =
      sumEntries w es - (lookupEntry k es).elim 0 (w k) + w k a := by
  induction es with
  | nil => simp [insertEntry, sumEntries, lookupEntry]
  | cons e es ih =>
      have hcons := List.pairwise_cons.1 h
      have hascending := ascending_insertEntry k a h
      rw [insertEntry] at hascending ⊢
      cases hk : compare k e.1 with
      | lt =>
          -- the key comes before all entries, so nothing is under it
          rw [hk] at hascending
          have hnone := lookupEntry_of_ascending hascending
          simp only at hnone
          simp only [hnone, sumEntries, Option.elim_none]
          omega
      | eq =>
          -- the first entry is replaced
          have hk : k = e.1 := Std.LawfulEqOrd.eq_of_compare hk
          simp only [lookupEntry, hk, if_true, sumEntries, Option.elim_some]
          omega
      | gt =>
          -- the first entry stays in front
          have hne : k ≠ e.1 := by
            rintro rfl
            simp [Std.ReflCmp.compare_self] at hk
          simp only [lookupEntry, if_neg hne, sumEntries, ih hcons.2]
          omega

theorem sumEntries_filter_ne (w : κ → α → Int) (k : κ) {es : List (κ × α)}
    (h : es.Pairwise fun e f => compare e.1 f.1 = .lt) :
    sumEntries w (es.filter fun e => e.1 ≠ k) =
      sumEntries w es - (lookupEntry k es).elim 0 (w k) := by
  induction es with
  | nil => rfl
  | cons e es ih =>
      have hrest := ih (List.pairwise_cons.1 h).2
      by_cases hk : e.1 = k
      · subst hk
        -- no other entry has the key
        rw [lookupEntry_of_ascending h] at hrest
        rw [List.filter_cons_of_neg (by simp), hrest]
        simp only [sumEntries, lookupEntry, if_true, Option.elim_none, Option.elim_some]
        omega
      · rw [List.filter_cons_of_pos (by simpa using hk)]
        simp only [sumEntries, lookupEntry, if_neg (Ne.symm hk), hrest]
        omega

/-- **Setting a value replaces the weight at its key.** -/
theorem sum_insert [Std.TransOrd κ] (w : κ → α → Int) (m : FiniteMap κ α) (k : κ) (a : α) :
    (m.insert k a).sum w = m.sum w - m.weightAt w k + w k a :=
  sumEntries_insertEntry w k a m.ascending

/-- **Erasing a key takes away the weight that was at it.** -/
theorem sum_erase (w : κ → α → Int) (m : FiniteMap κ α) (k : κ) :
    (m.erase k).sum w = m.sum w - m.weightAt w k :=
  sumEntries_filter_ne w k m.ascending

/-- No entry weighs more than all of them. -/
theorem weightAt_le_sum {w : κ → α → Int} (hw : ∀ k a, 0 ≤ w k a) (m : FiniteMap κ α) (k : κ) :
    m.weightAt w k ≤ m.sum w := by
  have hrest := sum_nonneg hw (m.erase k)
  rw [sum_erase] at hrest
  omega

/-- The sum of a weight is told by its values at the entries. -/
theorem sum_congr {w v : κ → α → Int} {m : FiniteMap κ α}
    (h : ∀ k a, m.get? k = some a → w k a = v k a) : m.sum w = m.sum v := by
  have hentries : ∀ e ∈ m.toList, w e.1 e.2 = v e.1 e.2 := fun e he =>
    h e.1 e.2 (get?_eq_some_iff.2 he)
  unfold sum
  generalize m.toList = es at hentries
  induction es with
  | nil => rfl
  | cons e es ih =>
      simp only [sumEntries, hentries e List.mem_cons_self,
        ih fun f hf => hentries f (List.mem_cons_of_mem _ hf)]

/-- A weight that differs at one key only has another sum by what it differs there. -/
theorem sum_of_ne {w v : κ → α → Int} {m : FiniteMap κ α} {k : κ}
    (h : ∀ l a, m.get? l = some a → l ≠ k → w l a = v l a) :
    m.sum v = m.sum w - m.weightAt w k + m.weightAt v k := by
  -- without the key the two sums are the same
  have hrest : (m.erase k).sum w = (m.erase k).sum v := by
    apply sum_congr
    intro l a hl
    obtain ⟨hk, hl⟩ := get?_erase_eq_some_iff.1 hl
    exact h l a hl hk
  rw [sum_erase, sum_erase] at hrest
  omega

end Lookup

end FiniteMap

end Interchain
