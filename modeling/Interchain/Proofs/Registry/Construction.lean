import Interchain.Proofs.Registry

/-!
# Making and changing a registry

Which lists of entries make a registry, and what the others are refused for. A list makes one if
and only if its entries are valid and their denominations distinct (`exists_ofEntries_iff`).
Otherwise the first entry that is invalid, or that has the denomination of one before it, decides
the error (`ofEntries_eq_error_iff`). What is in the registry does not depend on the order of the
list (`ofEntries_perm`).

Once it is made a registry is changed entry by entry, or made anew. Whatever is done to it, what
comes of it is reachable (`reachable_changed`), and a change that is refused may as well be left out
(`changed_of_refused`).
-/

set_option autoImplicit false

namespace Interchain

/-! ## Errors of validation -/

namespace Entry

/-- Whether the errors of a check name the entry. -/
def Names (e : Entry) (check : Except RegistryError Unit) : Prop :=
  ∀ error, check = .error error → ∃ fault, error = .invalid e.denom fault

variable {e : Entry}

theorem names_ok : e.Names (.ok ()) := by
  intro error h
  cases h

theorem names_invalid (fault : EntryFault) : e.Names (.error (.invalid e.denom fault)) := by
  intro error h
  cases h
  exact ⟨fault, rfl⟩

theorem Names.bind {check : Except RegistryError Unit} {rest : Unit → Except RegistryError Unit}
    (h : e.Names check) (hrest : e.Names (rest ())) : e.Names (check >>= rest) := by
  cases check with
  | ok => exact hrest
  | error error => exact h

theorem Names.ite {p : Prop} [Decidable p] {yes no : Except RegistryError Unit}
    (hyes : e.Names yes) (hno : e.Names no) : e.Names (if p then yes else no) := by
  split
  · exact hyes
  · exact hno

theorem names_checkDenom (text : String) : e.Names (e.checkDenom text) := by
  rw [checkDenom]
  cases Denom.parse text with
  | ok d => exact names_ok
  | error malformed => exact names_invalid _

/-- **An invalid entry is named in the error.** -/
theorem names_validate (e : Entry) : e.Names e.validate := by
  have hunit : e.Names (if e.hasUnit then do
      e.checkDenom e.unit
      if e.unit = e.denom then
        throw (.invalid e.denom .unitIsSelf) else .ok () else .ok ()) :=
    .ite (.bind (names_checkDenom _) (.ite (names_invalid _) names_ok)) names_ok
  apply Names.bind (names_checkDenom e.denom)
  -- the unit is checked behind the counterpart, whether there is one or not
  apply Names.ite
  · exact .bind (names_checkDenom _) (.ite (names_invalid _) hunit)
  · exact hunit

end Entry

namespace Registry

/-! ## Lists of entries -/

/-- Whether the entries of a list are valid and no denomination occurs twice. -/
structure Sound (es : List Entry) : Prop where
  valid : ∀ e ∈ es, e.validate = .ok ()
  distinct : (es.map Entry.denom).Nodup

/-- Why an entry behind others is refused: it is invalid, or, if it is valid, its denomination is
taken. -/
inductive Refuses (before : List Entry) (e : Entry) : RegistryError → Prop where
  | invalid {fault : EntryFault} (invalid : e.validate = .error (.invalid e.denom fault)) :
      Refuses before e (.invalid e.denom fault)
  | repeated (valid : e.validate = .ok ()) (taken : e.denom ∈ before.map Entry.denom) :
      Refuses before e (.duplicate e.denom)

/-- Whether the first entry of a list that is refused is refused for `error`. -/
def FirstRefused (es : List Entry) (error : RegistryError) : Prop :=
  ∃ before e after, es = before ++ e :: after ∧ Sound before ∧ Refuses before e error

/-- Whether the entries of a list are what is in a registry. -/
def Lists (r : Registry) (es : List Entry) : Prop :=
  ∀ key e, r.find? key = some e ↔ e ∈ es ∧ e.denom = key

theorem sound_nil : Sound [] where
  valid := fun _ he => absurd he List.not_mem_nil
  distinct := List.nodup_nil

theorem lists_empty : Lists ∅ [] := by
  intro key e
  simp [find?, show (∅ : Registry).entries.get? key = none from rfl]

theorem sound_concat_iff {es : List Entry} {e : Entry} :
    Sound (es ++ [e]) ↔ Sound es ∧ e.validate = .ok () ∧ e.denom ∉ es.map Entry.denom := by
  constructor
  · rintro ⟨hvalid, hdistinct⟩
    rw [List.map_append, List.nodup_append] at hdistinct
    obtain ⟨hes, -, hnew⟩ := hdistinct
    refine ⟨⟨fun f hf => hvalid f (List.mem_append_left _ hf), hes⟩, ?_, ?_⟩
    · exact hvalid e (List.mem_append_right _ List.mem_cons_self)
    · intro htaken
      exact hnew _ htaken _ (by simp) rfl
  · rintro ⟨⟨hvalid, hdistinct⟩, he, hnew⟩
    constructor
    · intro f hf
      rcases List.mem_append.1 hf with hf | hf
      · exact hvalid f hf
      · cases List.mem_singleton.1 hf
        exact he
    · rw [List.map_append, List.nodup_append]
      refine ⟨hdistinct, List.pairwise_singleton _ _, ?_⟩
      rintro key hkey _ hlast rfl
      rw [List.map_singleton, List.mem_singleton] at hlast
      exact hnew (hlast ▸ hkey)

/-- A list is sound in any order. -/
theorem Sound.perm {es fs : List Entry} (h : Sound es) (hperm : es.Perm fs) : Sound fs where
  valid := fun e he => h.valid e (hperm.mem_iff.2 he)
  distinct := (hperm.map _).nodup_iff.1 h.distinct

/-- A denomination is in the registry exactly if an entry of the list has it. -/
theorem Lists.contains_iff {r : Registry} {es : List Entry} (h : r.Lists es) (key : String) :
    r.entries.contains key = true ↔ key ∈ es.map Entry.denom := by
  rw [FiniteMap.contains, Option.isSome_iff_exists, List.mem_map]
  exact exists_congr (h key)

/-- Registries with the same entries are equal. -/
theorem Lists.unique {r s : Registry} {es : List Entry} (hr : r.Lists es) (hs : s.Lists es) :
    r = s := by
  have hentries : r.entries = s.entries := by
    apply FiniteMap.ext
    intro key
    apply Option.ext
    intro e
    exact (hr key e).trans (hs key e).symm
  cases r
  cases s
  cases hentries
  rfl

/-! ## Adding entries one by one -/

theorem add_of_refuses {r : Registry} {before : List Entry} {e : Entry} {error : RegistryError}
    (hr : r.Lists before) (h : Refuses before e error) : r.add e = .error error := by
  rw [add]
  cases h with
  | invalid hinvalid =>
      rw [hinvalid]
      rfl
  | repeated hvalid htaken =>
      rw [hvalid, (hr.contains_iff _).2 htaken]
      rfl

/-- An entry that is valid and new gets in behind the others. -/
theorem add_of_new {r : Registry} {before : List Entry} {e : Entry} (hr : r.Lists before)
    (hvalid : e.validate = .ok ()) (hnew : e.denom ∉ before.map Entry.denom) :
    ∃ s, r.add e = .ok s ∧ s.Lists (before ++ [e]) := by
  have hcontains : r.entries.contains e.denom = false :=
    Bool.eq_false_iff.2 fun htaken => hnew ((hr.contains_iff _).1 htaken)
  refine ⟨⟨r.entries.insert e.denom e⟩, ?_, ?_⟩
  · rw [add, hvalid, hcontains]
    rfl
  · intro key f
    rw [find?, FiniteMap.get?_insert_eq_some_iff, List.mem_append, List.mem_singleton]
    constructor
    · rintro (⟨rfl, rfl⟩ | ⟨-, hf⟩)
      · exact ⟨.inr rfl, rfl⟩
      · obtain ⟨hmem, hkey⟩ := (hr key f).1 hf
        exact ⟨.inl hmem, hkey⟩
    · rintro ⟨hmem | rfl, rfl⟩
      · -- an entry from before has another denomination than the new one
        refine .inr ⟨?_, (hr _ f).2 ⟨hmem, rfl⟩⟩
        intro hsame
        exact hnew (List.mem_map.2 ⟨f, hmem, hsame⟩)
      · exact .inl ⟨rfl, rfl⟩

/-- An entry gets in, or is refused. -/
theorem add_cases {r : Registry} {before : List Entry} (hr : r.Lists before)
    (hbefore : Sound before) (e : Entry) :
    (∃ s, r.add e = .ok s ∧ s.Lists (before ++ [e]) ∧ Sound (before ++ [e])) ∨
      ∃ error, r.add e = .error error ∧ Refuses before e error := by
  cases hvalid : e.validate with
  | error error =>
      obtain ⟨fault, rfl⟩ := e.names_validate error hvalid
      exact .inr ⟨_, add_of_refuses hr (.invalid hvalid), .invalid hvalid⟩
  | ok =>
      by_cases htaken : e.denom ∈ before.map Entry.denom
      · exact .inr ⟨_, add_of_refuses hr (.repeated hvalid htaken), .repeated hvalid htaken⟩
      · obtain ⟨s, hadd, hlists⟩ := add_of_new hr hvalid htaken
        exact .inl ⟨s, hadd, hlists, sound_concat_iff.2 ⟨hbefore, hvalid, htaken⟩⟩

/-- **What comes of adding the entries of a list**: all get in and what is in the registry is sound,
or one is the first that does not. -/
theorem foldlM_add_cases {r : Registry} {before : List Entry} (hr : r.Lists before)
    (hbefore : Sound before) (es : List Entry) :
    (∃ s, es.foldlM add r = .ok s ∧ s.Lists (before ++ es) ∧ Sound (before ++ es)) ∨
      ∃ error, es.foldlM add r = .error error ∧ ∃ added e after, es = added ++ e :: after ∧
        Sound (before ++ added) ∧ Refuses (before ++ added) e error := by
  -- what was added so far grows by one entry in each step
  induction es generalizing r before with
  | nil =>
      left
      rw [List.append_nil]
      exact ⟨r, rfl, hr, hbefore⟩
  | cons e es ih =>
      rw [List.foldlM_cons]
      rcases add_cases hr hbefore e with ⟨s, hadd, hlists, hsound⟩ | ⟨error, hadd, hrefuses⟩
      · rw [hadd]
        rcases ih hlists hsound with ⟨t, hrest, ht⟩ | ⟨error, hrest, added, f, after, rfl, hf⟩
        · left
          rw [List.append_assoc] at ht
          exact ⟨t, hrest, ht⟩
        · right
          rw [List.append_assoc] at hf
          exact ⟨error, hrest, e :: added, f, after, rfl, hf⟩
      · right
        rw [hadd]
        refine ⟨error, rfl, [], e, es, rfl, ?_⟩
        rw [List.append_nil]
        exact ⟨hbefore, hrefuses⟩

/-- What comes of a list of entries. -/
theorem ofEntries_cases (es : List Entry) :
    (∃ r, ofEntries es = .ok r ∧ r.Lists es ∧ Sound es) ∨
      ∃ error, ofEntries es = .error error ∧ FirstRefused es error :=
  foldlM_add_cases lists_empty sound_nil es

/-- In a sound list no entry is refused. -/
theorem Sound.not_firstRefused {es : List Entry} (h : Sound es) (error : RegistryError) :
    ¬ FirstRefused es error := by
  rintro ⟨before, e, after, rfl, -, hrefuses⟩
  cases hrefuses with
  | invalid hinvalid =>
      have hvalid := h.valid e (List.mem_append_right _ List.mem_cons_self)
      rw [hinvalid] at hvalid
      cases hvalid
  | repeated hvalid htaken =>
      -- the denomination stands before the entry and in it
      have hdistinct := h.distinct
      rw [List.map_append, List.nodup_append] at hdistinct
      exact hdistinct.2.2 _ htaken _ (by simp) rfl

/-- The first entry that is refused decides the error, whatever follows it. -/
theorem ofEntries_of_firstRefused {es : List Entry} {error : RegistryError}
    (h : FirstRefused es error) : ofEntries es = .error error := by
  obtain ⟨before, e, after, rfl, hsound, hrefuses⟩ := h
  rw [ofEntries, List.foldlM_append]
  rcases ofEntries_cases before with ⟨r, hmade, hlists, -⟩ | ⟨earlier, -, hearlier⟩
  · rw [ofEntries] at hmade
    rw [hmade]
    show (r.add e >>= fun s => after.foldlM add s) = _
    rw [add_of_refuses hlists hrefuses]
    rfl
  · exact absurd hearlier (hsound.not_firstRefused earlier)

/-- **Which lists make a registry.** -/
theorem exists_ofEntries_iff {es : List Entry} : (∃ r, ofEntries es = .ok r) ↔ Sound es := by
  constructor
  · rintro ⟨r, hmade⟩
    rcases ofEntries_cases es with ⟨_, -, -, hsound⟩ | ⟨error, hrefused, -⟩
    · exact hsound
    · rw [hmade] at hrefused
      cases hrefused
  · intro hsound
    rcases ofEntries_cases es with ⟨r, hmade, -, -⟩ | ⟨error, -, hfirst⟩
    · exact ⟨r, hmade⟩
    · exact absurd hfirst (hsound.not_firstRefused error)

/-- **What the other lists are refused for.** -/
theorem ofEntries_eq_error_iff {es : List Entry} {error : RegistryError} :
    ofEntries es = .error error ↔ FirstRefused es error := by
  constructor
  · intro hrefused
    rcases ofEntries_cases es with ⟨r, hmade, -, -⟩ | ⟨_, hother, hfirst⟩
    · rw [hmade] at hrefused
      cases hrefused
    · rw [hother] at hrefused
      cases hrefused
      exact hfirst
  · exact ofEntries_of_firstRefused

/-- **The order of the entries does not matter.** -/
theorem ofEntries_perm {es fs : List Entry} {r : Registry} (hperm : es.Perm fs)
    (h : ofEntries es = .ok r) : ofEntries fs = .ok r := by
  have hes : Sound es := exists_ofEntries_iff.1 ⟨r, h⟩
  rcases ofEntries_cases es with ⟨_, hmade, hr, -⟩ | ⟨_, -, hfirst⟩
  · rcases ofEntries_cases fs with ⟨s, hs, hlists, -⟩ | ⟨_, -, hfirst⟩
    · rw [h] at hmade
      cases hmade
      -- both registries list the same entries
      have hsame : s.Lists es := fun key e => by rw [hlists key e, hperm.mem_iff]
      rw [hs, hr.unique hsame]
    · exact absurd hfirst ((hes.perm hperm).not_firstRefused _)
  · exact absurd hfirst (hes.not_firstRefused _)

/-! ## Changes -/

/-- What is done to the registry of a chain. -/
inductive Change where
  /-- It is made anew of a list. -/
  | make (es : List Entry)
  | set (e : Entry)
  | remove (denom : String)

/-- How a change is made. -/
def Change.attempt : Change → Attempt RegistryError Registry Unit
  | .make es => do
      let made ← MonadExcept.ofExcept (ofEntries es)
      MonadState.set made
  | .set e => put e
  | .remove denom => modify (·.remove denom)

/-- The registry after a change, or why the change is refused. -/
def Change.outcome (r : Registry) (c : Change) : Except RegistryError Registry :=
  c.attempt.outcome r

/-- The registry that a change leaves, whether it is made or refused. -/
def after (r : Registry) (c : Change) : Registry :=
  c.attempt.after r

/-- The registry after some changes. -/
def changed (r : Registry) (cs : List Change) : Registry :=
  cs.foldl after r

theorem make_eq_settled (r : Registry) (es : List Entry) :
    (Change.make es).attempt r = Attempt.settled r (ofEntries es) := by
  rw [Change.attempt]
  cases ofEntries es with
  | ok made => rfl
  | error fault => rfl

instance (c : Change) : c.attempt.Atomic := by
  cases c with
  | make es => exact .of_settled fun r => make_eq_settled r es
  | set e => exact inferInstanceAs (put e).Atomic
  | remove denom => exact .of_settled (f := fun r => .ok (r.remove denom)) fun _ => rfl

theorem after_of_error {r : Registry} {c : Change} {error : RegistryError}
    (h : c.outcome r = .error error) : r.after c = r :=
  Attempt.Atomic.after_eq_of_error h

theorem reachable_after {r : Registry} (hr : r.Reachable) (c : Change) : (r.after c).Reachable := by
  cases c with
  | make es =>
      have houtcome := Attempt.outcome_of_settled (make_eq_settled r es)
      cases hmade : ofEntries es with
      | ok made =>
          rw [hmade] at houtcome
          rw [after, Attempt.after_eq_of_ok houtcome]
          exact .made hmade
      | error fault =>
          rw [hmade] at houtcome
          rw [after_of_error houtcome]
          exact hr
  | set e => exact .changed hr e
  | remove denom => exact .removed hr denom

/-- **Changes keep a registry reachable.** -/
theorem reachable_changed {r : Registry} (hr : r.Reachable) (cs : List Change) :
    (r.changed cs).Reachable := by
  induction cs generalizing r with
  | nil => exact hr
  | cons c cs ih => exact ih (reachable_after hr c)

/-- The registry without entries is made of the empty list. -/
theorem reachable_empty : Reachable ∅ := by
  have hmade : ofEntries [] = .ok ∅ := rfl
  exact .made hmade

/-- **A refused change changes nothing**, so it may be left out of the changes. -/
theorem changed_of_refused {r : Registry} {before : List Change} {c : Change}
    {error : RegistryError} (h : c.outcome (r.changed before) = .error error)
    (rest : List Change) : r.changed (before ++ c :: rest) = r.changed (before ++ rest) := by
  have hstep : (before.foldl after r).after c = before.foldl after r :=
    after_of_error h
  rw [changed, changed, List.foldl_append, List.foldl_append, List.foldl_cons, hstep]

end Registry

end Interchain
