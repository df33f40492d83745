import Interchain.Toml.Reader

/-!
# Putting a document together

What the reader makes of sections whose keys are all new: a table for each header, and an array
for all the headers of tables in an array.
-/

set_option autoImplicit false

namespace Interchain.Toml

/-! ## Members under new keys -/

theorem set_of_lookup_none {key : String} {ms : Members} (h : ms.lookup key = none) (node : Node) :
    Members.set key node ms = ms ++ [(key, node)] := by
  induction ms with
  | nil => rfl
  | cons m ms ih =>
      obtain ⟨name, old⟩ := m
      rw [List.lookup_cons] at h
      by_cases hkey : key = name
      · rw [hkey, beq_self_eq_true] at h
        cases h
      · rw [beq_false_of_ne hkey] at h
        rw [Members.set, if_neg fun heq => hkey heq.symm, ih h]
        rfl

theorem set_append_singleton {key : String} {ms : Members} (h : ms.lookup key = none)
    (old node : Node) : Members.set key node (ms ++ [(key, old)]) = ms ++ [(key, node)] := by
  induction ms with
  | nil => exact if_pos rfl
  | cons m ms ih =>
      obtain ⟨name, other⟩ := m
      rw [List.lookup_cons] at h
      by_cases hkey : key = name
      · rw [hkey, beq_self_eq_true] at h
        cases h
      · rw [beq_false_of_ne hkey] at h
        rw [List.cons_append, Members.set, if_neg fun heq => hkey heq.symm, ih h]
        rfl

theorem lookup_append_singleton {key : String} {ms : Members} (h : ms.lookup key = none)
    (node : Node) : (ms ++ [(key, node)]).lookup key = some node := by
  rw [List.lookup_append, h]
  simp

/-! ## Tables of bindings -/

/-- The binding of a key without dots. -/
def bindingOf (m : String × Toml) : Binding :=
  ⟨[], m.1, m.2⟩

/-- The members under construction that the finished members come from. -/
def values (ms : List (String × Toml)) : Members :=
  ms.map fun m => (m.1, .value m.2)

theorem finish_values (ms : List (String × Toml)) : finish (values ms) = ms := by
  induction ms with
  | nil => rfl
  | cons m ms ih =>
      show (m.1, m.2) :: finish (values ms) = m :: ms
      rw [ih]

theorem addBinding_new {ms : Members} {key : String} (h : ms.lookup key = none) (v : Toml) :
    addBinding ms ⟨[], key, v⟩ = some (ms ++ [(key, .value v)]) := by
  show (if (false == true || (ms.lookup key).isSome) then none
    else some (ms.set key (.value v))) = _
  rw [h, ← set_of_lookup_none h]
  rfl

theorem lookup_values {key : String} {ms : List (String × Toml)} (h : key ∉ ms.map (·.1)) :
    (values ms).lookup key = none := by
  rw [List.lookup_eq_none_iff]
  intro m hm
  obtain ⟨k, hk, rfl⟩ := List.mem_map.1 hm
  have hne : key ≠ k.1 := fun heq => h (heq ▸ List.mem_map_of_mem hk)
  exact bne_iff_ne.2 hne

/-- Bindings of different keys make a table. -/
theorem addBindings_values {before ms : List (String × Toml)}
    (h : ((before ++ ms).map (·.1)).Nodup) :
    addBindings (ms.map bindingOf) (values before) = some (values (before ++ ms)) := by
  induction ms generalizing before with
  | nil =>
      rw [List.append_nil]
      rfl
  | cons m ms ih =>
      have hnew : m.1 ∉ before.map (·.1) := by
        rw [List.map_append, List.map_cons, List.nodup_append] at h
        exact fun hmem => h.2.2 _ hmem m.1 List.mem_cons_self rfl
      -- the binding moves over to those that are done
      have hsplit : before ++ m :: ms = (before ++ [m]) ++ ms := by simp
      rw [hsplit] at h ⊢
      rw [addBindings, List.map_cons, List.foldlM_cons, bindingOf,
        addBinding_new (lookup_values hnew)]
      have hvalues : values before ++ [(m.1, Node.value m.2)] = values (before ++ [m]) := by
        simp [values]
      rw [hvalues]
      exact ih h

/-! ## Sections -/

/-- A table with the members under a header of its own. -/
def tableSection (key : String) (ms : List (String × Toml)) : Section :=
  ⟨false, [], key, ms.map bindingOf⟩

/-- One of the tables of an array. -/
def arraySection (key : String) (ms : List (String × Toml)) : Section :=
  ⟨true, [], key, ms.map bindingOf⟩

theorem addBindings_new {ms : List (String × Toml)} (h : (ms.map (·.1)).Nodup) :
    addBindings (ms.map bindingOf) [] = some (values ms) := by
  have hadd : addBindings (ms.map bindingOf) (values []) = some (values ([] ++ ms)) :=
    addBindings_values h
  exact hadd

variable {root : Members} {key : String} {ms : List (String × Toml)}

theorem addSection_table (hkey : root.lookup key = none) (h : (ms.map (·.1)).Nodup) :
    addSection root (tableSection key ms) =
      some (root ++ [(key, .table false false (values ms))]) := by
  simp only [addSection, tableSection, descend, hkey, addBindings_new h, set_of_lookup_none hkey]
  rfl

theorem addSection_firstTable (hkey : root.lookup key = none) (h : (ms.map (·.1)).Nodup) :
    addSection root (arraySection key ms) = some (root ++ [(key, .tables [] (values ms))]) := by
  simp only [addSection, arraySection, descend, hkey, addBindings_new h, set_of_lookup_none hkey]
  rfl

theorem addSection_nextTable (hkey : root.lookup key = none) (h : (ms.map (·.1)).Nodup)
    (earlier : List Members) (last : Members) :
    addSection (root ++ [(key, .tables earlier last)]) (arraySection key ms) =
      some (root ++ [(key, .tables (earlier ++ [last]) (values ms))]) := by
  simp only [addSection, arraySection, descend, lookup_append_singleton hkey, addBindings_new h,
    set_append_singleton hkey]
  rfl

/-- The headers of tables in an array make the array go on. -/
theorem foldlM_arraySections (hkey : root.lookup key = none) (mss : List (List (String × Toml)))
    (h : ∀ ms ∈ mss, (ms.map (·.1)).Nodup) (earlier : List Members) (last : Members) :
    ∃ earlier' last', (mss.map (arraySection key)).foldlM addSection
        (root ++ [(key, .tables earlier last)]) = some (root ++ [(key, .tables earlier' last')]) ∧
      earlier' ++ [last'] = earlier ++ last :: mss.map values := by
  induction mss generalizing earlier last with
  | nil => exact ⟨earlier, last, rfl, rfl⟩
  | cons ms mss ih =>
      obtain ⟨earlier', last', hfold, heq⟩ :=
        ih (fun ms hms => h ms (List.mem_cons_of_mem _ hms)) (earlier ++ [last]) (values ms)
      refine ⟨earlier', last', ?_, ?_⟩
      · rw [List.map_cons, List.foldlM_cons,
          addSection_nextTable hkey (h ms List.mem_cons_self) earlier last]
        exact hfold
      · rw [heq]
        simp

theorem finishAll_eq_map (mss : List Members) :
    finishAll mss = mss.map fun ms => .table (finish ms) := by
  induction mss with
  | nil => rfl
  | cons ms mss ih =>
      rw [finishAll, ih]
      rfl

theorem finish_append (ms ks : Members) : finish (ms ++ ks) = finish ms ++ finish ks := by
  induction ms with
  | nil => rfl
  | cons m ms ih =>
      rw [List.cons_append, finish, ih, finish]
      rfl

/-- An array of tables under a new key. -/
theorem foldlM_tables (hkey : root.lookup key = none) (ms : List (String × Toml))
    (mss : List (List (String × Toml))) (h : ∀ ks ∈ ms :: mss, (ks.map (·.1)).Nodup) :
    ∃ node, ((ms :: mss).map (arraySection key)).foldlM addSection root =
        some (root ++ [(key, node)]) ∧ node.toToml = .array ((ms :: mss).map .table) := by
  obtain ⟨earlier, last, hfold, heq⟩ := foldlM_arraySections hkey mss
    (fun ks hks => h ks (List.mem_cons_of_mem _ hks)) [] (values ms)
  refine ⟨.tables earlier last, ?_, ?_⟩
  · rw [List.map_cons, List.foldlM_cons, addSection_firstTable hkey (h ms List.mem_cons_self)]
    exact hfold
  · have htables : finishAll earlier ++ [.table (finish last)] =
        (earlier ++ [last]).map fun ks => Toml.table (finish ks) := by
      rw [finishAll_eq_map, List.map_append]
      rfl
    rw [Node.toToml, htables, heq]
    simp [finish_values, Function.comp_def]

end Interchain.Toml
