import Interchain.Proofs.Registry.Construction
import Interchain.Proofs.Transfer.Plans

/-!
# What lookups give

The transfer module looks up the entry of a denomination and reads the denomination in it again.
Whether a denomination is registered it tells by whether its entry is empty. In a valid registry
both are safe (`Valid.lookups`): only what is not registered has an empty entry, and what stands in
an entry that is not empty is the denomination that was looked up. So a conversion on the way out
never fails for the denomination of its counterpart, and there is a plan for every counterpart
whose unit has more decimals and names it back.

`construction_and_upkeep` puts this together with what is known of making and changing a registry.
-/

set_option autoImplicit false

namespace Interchain

namespace Entry

variable {e : Entry}

/-- The key of a valid entry can be read. -/
theorem parse_of_validate (h : e.validate = .ok ()) : ∃ d, Denom.parse e.denom = .ok d := by
  cases hparse : Denom.parse e.denom with
  | ok d => exact ⟨d, rfl⟩
  | error error =>
      rw [validate, checkDenom, hparse] at h
      cases h

end Entry

namespace Registry

variable {r : Registry}

/-- **What stands in an entry that is not empty can be read**, and is what was looked up. -/
theorem Valid.parse_entry (hr : r.Valid) {key : String} (h : (r.entry key).isEmpty = false) :
    ∃ d : Denom, Denom.parse (r.entry key).denom = .ok d ∧ d.text = key := by
  cases hfind : r.find? key with
  | none =>
      rw [entry, hfind] at h
      exact absurd h (by decide)
  | some e =>
      obtain ⟨hkey, hvalid⟩ := hr key e hfind
      obtain ⟨d, hd⟩ := Entry.parse_of_validate hvalid
      rw [entry_of_find? hfind]
      exact ⟨d, hd, (Denom.text_of_parse hd).trans hkey⟩

/-- **Only what is not registered has an empty entry.** -/
theorem Valid.isEmpty_entry_iff (hr : r.Valid) (key : String) :
    (r.entry key).isEmpty = true ↔ r.find? key = none := by
  cases hfind : r.find? key with
  | none =>
      rw [entry, hfind]
      exact ⟨fun _ => rfl, fun _ => rfl⟩
  | some e =>
      obtain ⟨-, hvalid⟩ := hr key e hfind
      obtain ⟨d, hd⟩ := Entry.parse_of_validate hvalid
      rw [entry_of_find? hfind, Entry.isEmpty, ← Denom.text_of_parse hd, Denom.isEmpty_text]
      constructor
      · intro h
        cases h
      · intro h
        cases h

/-- **When there is no plan.** That the unit cannot be read is no reason. -/
theorem Valid.resolve_eq_none_iff (hr : r.Valid) (t : Denom) :
    Plan.resolve r t = none ↔
      (r.entry t.text).isEmpty = true ∨ (r.entry t.text).hasUnit = false ∨
        (r.entry (r.entry t.text).unit).isEmpty = true ∨
        (r.entry (r.entry t.text).unit).counterparty ≠ (r.entry t.text).denom ∨
        (r.entry (r.entry t.text).unit).decimals ≤ (r.entry t.text).decimals := by
  rw [Plan.resolve]
  cases hunit : (r.entry (r.entry t.text).unit).isEmpty with
  | true => simp [hunit]
  | false =>
      obtain ⟨u, hu, -⟩ := hr.parse_entry hunit
      simp only [hunit, hu, Bool.false_or]
      grind

/-- What the transfer module relies on when it looks up entries. -/
structure Lookups (r : Registry) : Prop where
  keyed : ∀ key e, r.find? key = some e → e.denom = key
  valid : ∀ key e, r.find? key = some e → e.validate = .ok ()
  isEmpty_iff : ∀ key, (r.entry key).isEmpty = true ↔ r.find? key = none
  /-- A counterpart that is registered can be read, so a token with more decimals than it has is
  converted as soon as the address of the sender is read. -/
  counterpart : ∀ entry, (r.entry entry.counterparty).isEmpty = false →
    ∃ c : Denom, c.text = entry.counterparty ∧
      Denom.parse (r.entry entry.counterparty).denom = .ok c ∧
      ∀ {κ β : Type} [Transport κ] [Ledger β] (message : TransferMessage),
        Outbound.Converts r entry →
        (Outbound.sendAs r entry message : Action κ β TransferResponse) = do
          let sender ← Action.parsed (Address.parse message.sender)
          Outbound.sendConverted sender c (Outbound.excess r entry) message
  /-- A unit that is registered can be read, so there is a plan unless the entries forbid it. -/
  resolve_eq_none_iff : ∀ t : Denom, Plan.resolve r t = none ↔
    (r.entry t.text).isEmpty = true ∨ (r.entry t.text).hasUnit = false ∨
      (r.entry (r.entry t.text).unit).isEmpty = true ∨
      (r.entry (r.entry t.text).unit).counterparty ≠ (r.entry t.text).denom ∨
      (r.entry (r.entry t.text).unit).decimals ≤ (r.entry t.text).decimals

/-- **A valid registry can be relied on.** -/
theorem Valid.lookups (hr : r.Valid) : r.Lookups where
  keyed key e he := (hr key e he).1
  valid key e he := (hr key e he).2
  isEmpty_iff := hr.isEmpty_entry_iff
  counterpart entry hregistered := by
    obtain ⟨c, hc, htext⟩ := hr.parse_entry hregistered
    refine ⟨c, htext, hc, ?_⟩
    intro κ β _ _ message hconverts
    rw [Outbound.sendAs_of_converts hconverts, Outbound.convertAndSend]
    -- whoever the sender is, the counterpart is read after that
    congr 1
    funext sender
    rw [hc, Action.parsed_ok_bind]
    rfl
  resolve_eq_none_iff := hr.resolve_eq_none_iff

/-- **Construction and upkeep.** A list makes a registry exactly if its entries are valid and
distinct, the first entry that is not decides the error, and the order does not matter. Whatever is
then done to the registry of a chain, refused changes change nothing and its entries can be relied
on. -/
theorem construction_and_upkeep (es : List Entry) (cs : List Change) :
    ((∃ r, ofEntries es = .ok r) ↔ Sound es) ∧
      (∀ error, ofEntries es = .error error ↔ FirstRefused es error) ∧
      (∀ fs r, es.Perm fs → ofEntries es = .ok r → ofEntries fs = .ok r) ∧
      (∀ c error rest, Change.outcome (changed ∅ cs) c = .error error →
        changed ∅ (cs ++ c :: rest) = changed ∅ (cs ++ rest)) ∧
      (changed ∅ cs).Lookups := by
  refine ⟨exists_ofEntries_iff, fun _ => ofEntries_eq_error_iff, ?_, ?_, ?_⟩
  · intro fs r hperm hmade
    exact ofEntries_perm hperm hmade
  · intro c error rest hrefused
    exact changed_of_refused hrefused rest
  · exact (reachable_changed reachable_empty cs).valid.lookups

/-- The entries of `rowan` and `xrowan` make the same registry in the other order. An entry without
a denomination may be left out of the changes, and once `xrowan` is removed a message with `rowan`
finds no counterpart. -/
theorem construction_and_upkeep_sample :
    ofEntries Sample.entries.reverse = .ok Sample.registry ∧
      changed ∅ ([.make Sample.entries] ++ .set {} :: [.remove "xrowan"]) =
        changed ∅ ([.make Sample.entries] ++ [.remove "xrowan"]) ∧
      ((changed ∅ [.make Sample.entries, .remove "xrowan"]).entry "xrowan").isEmpty = true := by
  obtain ⟨-, -, hperm, hrefused, -⟩ :=
    construction_and_upkeep Sample.entries [.make Sample.entries]
  obtain ⟨-, -, -, -, hlookups⟩ :=
    construction_and_upkeep [] [.make Sample.entries, .remove "xrowan"]
  refine ⟨?_, ?_, ?_⟩
  · exact hperm _ _ (List.reverse_perm _).symm Sample.ofEntries_entries
  · exact hrefused (.set {}) _ _ rfl
  · exact (hlookups.isEmpty_iff _).2 rfl

end Registry

end Interchain
