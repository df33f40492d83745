import Interchain.Proofs.Attempt
import Interchain.Proofs.FiniteMap
import Interchain.Registry.Basic

/-!
# What is in a registry

A registry is valid if every entry is valid and stands under its own denomination. The ways to
make a registry and to change it lead to valid registries only (`valid_ofEntries`, `valid_put`,
`valid_remove`, `Reachable.valid`), so the entry of a denomination, if it has one, names this
denomination (`Valid.denom_entry`).
-/

set_option autoImplicit false

namespace Interchain

/-- A denomination has a text. -/
theorem Denom.isEmpty_text (d : Denom) : d.text.isEmpty = false := by
  have hne : d.text ≠ "" := by
    intro hempty
    have hrule := d.follows
    rw [hempty] at hrule
    exact absurd hrule (by decide)
  simpa [String.isEmpty_iff] using hne

namespace Registry

/-- Every entry is valid and stands under its own denomination. -/
def Valid (r : Registry) : Prop :=
  ∀ key e, r.find? key = some e → e.denom = key ∧ e.validate = .ok ()

theorem valid_empty : Valid ∅ := by
  intro key e h
  cases h

/-- A valid entry may be put under its denomination. -/
theorem Valid.insert {r : Registry} (hr : r.Valid) {e : Entry} (he : e.validate = .ok ()) :
    Valid ⟨r.entries.insert e.denom e⟩ := by
  intro key f hf
  rcases FiniteMap.get?_insert_eq_some_iff.1 hf with ⟨rfl, rfl⟩ | ⟨-, hf⟩
  · exact ⟨rfl, he⟩
  · exact hr key f hf

/-- An entry is checked before it is put into the registry. -/
theorem put_eq_settled (r : Registry) (e : Entry) :
    put e r = Attempt.settled r
      (match e.validate with
      | .error fault => .error fault
      | .ok () => .ok ⟨r.entries.insert e.denom e⟩) := by
  rw [put]
  cases e.validate with
  | error fault => rfl
  | ok => rfl

/-- **An entry that is refused leaves the registry as it was.** -/
instance (e : Entry) : (put e).Atomic :=
  .of_settled fun r => put_eq_settled r e

theorem set_eq_ok_iff {r s : Registry} {e : Entry} :
    r.set e = .ok s ↔ e.validate = .ok () ∧ s = ⟨r.entries.insert e.denom e⟩ := by
  rw [set, Attempt.outcome_of_settled (put_eq_settled r e)]
  cases e.validate with
  | error fault => simp
  | ok => simp [eq_comm]

theorem valid_put {r : Registry} (hr : r.Valid) (e : Entry) : ((put e).after r).Valid := by
  cases houtcome : r.set e with
  | error fault =>
      rw [Attempt.Atomic.after_eq_of_error houtcome]
      exact hr
  | ok s =>
      obtain ⟨he, rfl⟩ := set_eq_ok_iff.1 houtcome
      rw [Attempt.after_eq_of_ok houtcome]
      exact hr.insert he

theorem valid_remove {r : Registry} (hr : r.Valid) (denom : String) : (r.remove denom).Valid := by
  intro key f hf
  exact hr key f (FiniteMap.get?_erase_eq_some_iff.1 hf).2

theorem valid_add {r s : Registry} (hr : r.Valid) {e : Entry} (h : r.add e = .ok s) :
    s.Valid := by
  rw [add] at h
  cases he : e.validate with
  | error fault =>
      rw [he] at h
      cases h
  | ok =>
      rw [he] at h
      cases hknown : r.entries.contains e.denom with
      | true =>
          simp only [hknown] at h
          cases h
      | false =>
          simp only [hknown] at h
          cases h
          exact hr.insert he

theorem valid_foldlM_add {r s : Registry} (hr : r.Valid) {es : List Entry}
    (h : es.foldlM add r = .ok s) : s.Valid := by
  induction es generalizing r with
  | nil =>
      cases h
      exact hr
  | cons e es ih =>
      rw [List.foldlM_cons] at h
      cases hadd : r.add e with
      | error fault =>
          rw [hadd] at h
          cases h
      | ok q =>
          rw [hadd] at h
          exact ih (valid_add hr hadd) h

/-- **A registry that is made of a list of entries is valid.** -/
theorem valid_ofEntries {es : List Entry} {r : Registry} (h : ofEntries es = .ok r) : r.Valid :=
  valid_foldlM_add valid_empty h

/-- Whether a registry comes about from a list of entries by putting in and removing entries. What
is left after an entry was refused counts, too. -/
inductive Reachable : Registry → Prop where
  | made {es : List Entry} {r : Registry} (made : ofEntries es = .ok r) : Reachable r
  | changed {r : Registry} (reachable : Reachable r) (e : Entry) : Reachable ((put e).after r)
  | removed {r : Registry} (reachable : Reachable r) (denom : String) :
      Reachable (r.remove denom)

/-- **Every registry that comes about is valid.** -/
theorem Reachable.valid {r : Registry} (h : r.Reachable) : r.Valid := by
  induction h with
  | made hmade => exact valid_ofEntries hmade
  | changed _ e ih => exact valid_put ih e
  | removed _ denom ih => exact valid_remove ih denom

/-! ## Entries of denominations -/

/-- The entry of a denomination that is registered. -/
theorem entry_of_find? {r : Registry} {key : String} {e : Entry} (h : r.find? key = some e) :
    r.entry key = e := by
  rw [entry, h]
  rfl

/-- An entry that names a denomination names the one it stands under. -/
theorem Valid.denom_entry {r : Registry} (hr : r.Valid) {key : String}
    (h : (r.entry key).isEmpty = false) : (r.entry key).denom = key := by
  cases hfind : r.find? key with
  | none =>
      rw [entry, hfind] at h
      exact absurd h (by decide)
  | some e =>
      rw [entry_of_find? hfind]
      exact (hr key e hfind).1

/-- An entry with anything in it names a denomination. -/
theorem Valid.isEmpty_entry {r : Registry} (hr : r.Valid) {d : Denom}
    (h : r.entry d.text ≠ {}) : (r.entry d.text).isEmpty = false := by
  cases hfind : r.find? d.text with
  | none => exact absurd (by rw [entry, hfind]; rfl) h
  | some e =>
      rw [entry_of_find? hfind, Entry.isEmpty, (hr _ e hfind).1]
      exact Denom.isEmpty_text d

end Registry

end Interchain
