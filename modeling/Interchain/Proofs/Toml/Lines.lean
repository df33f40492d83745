import Interchain.Proofs.Toml.Tables
import Interchain.Proofs.Toml.Values

/-!
# Printed lines are read back

A printed document is a list of lines: headers, bindings of bare keys, and empty lines between
tables. `Lines` says what the reader makes of lines, whatever fuel it has left, and there is one
lemma for each sort of line. The bindings under a header make a table if their keys differ.
-/

set_option autoImplicit false

namespace Interchain.Toml

/-! ## Keys -/

/-- Whether a key can stand in a document without quotes. -/
def IsBare (key : String) : Prop :=
  key ≠ "" ∧ key.toList.all isBareKeyChar = true

instance : DecidablePred IsBare :=
  fun key => inferInstanceAs (Decidable (key ≠ "" ∧ key.toList.all isBareKeyChar = true))

theorem IsBare.exists_cons {key : String} (h : IsBare key) :
    ∃ c cs, key.toList = c :: cs ∧ isBareKeyChar c = true := by
  obtain ⟨c, cs, hcs⟩ : ∃ c cs, key.toList = c :: cs :=
    List.exists_cons_of_ne_nil fun hnil => h.1 (String.toList_eq_nil_iff.1 hnil)
  exact ⟨c, cs, hcs, List.all_eq_true.1 h.2 c (by simp [hcs])⟩

/-- The characters of bare keys are none of those that the reader of lines looks for. -/
theorem isBareKeyChar_ne {c d : Char} (hc : isBareKeyChar c = true)
    (hd : isBareKeyChar d = false) : c ≠ d := by
  rintro rfl
  rw [hc] at hd
  cases hd

theorem skipBlanks_cons {c : Char} (h : isBlank c = false) (cs : List Char) :
    skipBlanks (c :: cs) = c :: cs :=
  List.dropWhile_cons_of_neg (by simp [h])

theorem isBlank_of_bare {c : Char} (h : isBareKeyChar c = true) : isBlank c = false := by
  simp [isBlank, isBareKeyChar_ne (d := ' ') h (by decide),
    isBareKeyChar_ne (d := '\t') h (by decide)]

/-- A bare key is read up to where it ends. -/
theorem readKeyPart_bare {key : String} (h : IsBare key) {rest : List Char}
    (hend : rest.takeWhile isBareKeyChar = []) :
    readKeyPart (key.toList ++ rest) = some (key, rest) := by
  obtain ⟨c, cs, hcs, hc⟩ := h.exists_cons
  have hbare : ∀ d ∈ cs, isBareKeyChar d = true := fun d hd =>
    List.all_eq_true.1 h.2 d (by simp [hcs, hd])
  have htake : (cs ++ rest).takeWhile isBareKeyChar = cs := by
    rw [List.takeWhile_append_of_pos hbare, hend, List.append_nil]
  have hdrop : (cs ++ rest).dropWhile isBareKeyChar = rest := by
    have hrest := List.takeWhile_append_dropWhile (p := isBareKeyChar) (l := rest)
    rw [hend, List.nil_append] at hrest
    rw [List.dropWhile_append_of_pos hbare, hrest]
  have hkey : String.ofList (c :: cs) = key := by rw [← hcs, String.ofList_toList]
  rw [hcs, List.cons_append, readKeyPart]
  rw [if_neg (isBareKeyChar_ne hc (by decide)), if_neg (isBareKeyChar_ne hc (by decide)),
    if_pos hc, htake, hdrop, hkey]

/-- A key of one bare part is read up to the sign behind it. -/
theorem readKey_bare {key : String} (h : IsBare key) {rest more : List Char} {c : Char}
    (hend : rest.takeWhile isBareKeyChar = []) (hrest : skipBlanks rest = c :: more)
    (hdot : c ≠ '.') : readKey (key.toList ++ rest) = some (([], key), c :: more) := by
  have hstart : skipBlanks (key.toList ++ rest) = key.toList ++ rest := by
    obtain ⟨d, cs, hcs, hd⟩ := h.exists_cons
    rw [hcs, List.cons_append, skipBlanks_cons (isBlank_of_bare hd)]
  have hparts : readKeyParts levelLimit (key.toList ++ rest) = some ([key], c :: more) := by
    rw [levelLimit, readKeyParts, hstart, readKeyPart_bare h hend]
    simp only [Option.bind_eq_bind, Option.bind_some, hrest]
    split
    · rename_i heq
      exact absurd (List.cons.inj heq).1 hdot
    · rfl
  rw [readKey, hparts]
  rfl

/-! ## Lines -/

theorem skipLineEnd_newline (rest : List Char) : skipLineEnd ('\n' :: rest) = some rest :=
  rfl

/-- A key with its value on a line of its own. -/
def bindingLine (key : String) (cs : List Char) : List Char :=
  key.toList ++ " = ".toList ++ cs ++ ['\n']

theorem readBinding_line {key : String} (h : IsBare key) {v : Toml} {cs : List Char}
    (hv : Prints v cs) (rest : List Char) :
    readBinding (bindingLine key cs ++ rest) = some (⟨[], key, v⟩, rest) := by
  have hsplit : bindingLine key cs ++ rest =
      key.toList ++ ' ' :: '=' :: ' ' :: (cs ++ '\n' :: rest) := by simp [bindingLine]
  have hkey : readKey (key.toList ++ ' ' :: '=' :: ' ' :: (cs ++ '\n' :: rest)) =
      some (([], key), '=' :: ' ' :: (cs ++ '\n' :: rest)) :=
    readKey_bare h rfl rfl (by decide)
  have hblank : skipBlanks (' ' :: (cs ++ '\n' :: rest)) = cs ++ '\n' :: rest := by
    obtain ⟨c, more, rfl, hc⟩ := hv.starts
    rw [List.cons_append]
    exact skipBlanks_cons hc _
  have hread := hv.read (2 * (cs ++ '\n' :: rest).length) rest <| by
    simp only [List.length_append, List.length_cons]
    omega
  rw [hsplit, readBinding, hkey]
  simp only [Option.bind_eq_bind, Option.bind_some, dropChar?, if_true, hblank, hread,
    skipLineEnd_newline, Option.pure_def]

/-- What the reader makes of lines: the bindings in front of the first header, and the sections
from there on. -/
def Lines (cs : List Char) (bindings : List Binding) (sections : List Section) : Prop :=
  ∀ fuel, cs.length < fuel → readLines fuel cs = some (bindings, sections)

namespace Lines

theorem nil : Lines [] [] [] := by
  intro fuel hfuel
  obtain ⟨fuel, rfl⟩ : ∃ n, fuel = n + 1 := ⟨fuel - 1, by omega⟩
  rfl

variable {cs : List Char} {bindings : List Binding} {sections : List Section}

theorem empty (h : Lines cs bindings sections) : Lines ('\n' :: cs) bindings sections := by
  intro fuel hfuel
  obtain ⟨fuel, rfl⟩ : ∃ n, fuel = n + 1 := ⟨fuel - 1, by omega⟩
  exact h fuel (by simpa using hfuel)

theorem binding (h : Lines cs bindings sections) {key : String} (hkey : IsBare key) {v : Toml}
    {text : List Char} (hv : Prints v text) :
    Lines (bindingLine key text ++ cs) (⟨[], key, v⟩ :: bindings) sections := by
  intro fuel hfuel
  obtain ⟨fuel, rfl⟩ : ∃ n, fuel = n + 1 := ⟨fuel - 1, by omega⟩
  have hrest : readLines fuel cs = some (bindings, sections) := by
    refine h fuel ?_
    simp only [bindingLine, List.length_append, List.length_cons] at hfuel
    omega
  have hread := readBinding_line hkey hv cs
  obtain ⟨c, more, hcs, hc⟩ := hkey.exists_cons
  obtain ⟨tail, htail⟩ : ∃ tail, bindingLine key text ++ cs = c :: tail :=
    ⟨_, by rw [bindingLine, hcs]; rfl⟩
  rw [htail] at hread ⊢
  rw [readLines, skipBlanks_cons (isBlank_of_bare hc)]
  -- the first character of a bare key starts no header, no comment and no empty line
  split
  · rename_i heq
    cases heq
  · rename_i heq
    exact absurd (List.cons.inj heq).1 (isBareKeyChar_ne hc (by decide))
  · rename_i heq
    cases heq
    have hplain : ¬ ((decide (c = '#') || decide (c = '\n') || decide (c = '\r')) = true) := by
      simp [isBareKeyChar_ne (d := '#') hc (by decide),
        isBareKeyChar_ne (d := '\n') hc (by decide), isBareKeyChar_ne (d := '\r') hc (by decide)]
    rw [if_neg hplain, hread]
    simp only [Option.bind_eq_bind, Option.bind_some, hrest]
    rfl

/-- What is read behind the first bracket of a header. -/
theorem header_of_readHeader (h : Lines cs bindings sections) (text : List Char)
    (header : Section) (hread : readHeader (text ++ '\n' :: cs) = some (header, cs)) :
    Lines ('[' :: text ++ '\n' :: cs) [] ({ header with bindings } :: sections) := by
  intro fuel hfuel
  obtain ⟨fuel, rfl⟩ : ∃ n, fuel = n + 1 := ⟨fuel - 1, by omega⟩
  have hrest : readLines fuel cs = some (bindings, sections) := by
    refine h fuel ?_
    simp only [List.length_append, List.length_cons] at hfuel
    omega
  rw [List.cons_append, readLines, skipBlanks_cons (by decide)]
  simp only [hread, hrest, Option.bind_eq_bind, Option.bind_some]
  rfl

theorem header (h : Lines cs bindings sections) {key : String} (hkey : IsBare key) :
    Lines ('[' :: (key.toList ++ [']']) ++ '\n' :: cs) []
      (⟨false, [], key, bindings⟩ :: sections) := by
  refine h.header_of_readHeader _ ⟨false, [], key, []⟩ ?_
  have hread : readKey (key.toList ++ ']' :: '\n' :: cs) = some (([], key), ']' :: '\n' :: cs) :=
    readKey_bare hkey rfl rfl (by decide)
  obtain ⟨c, more, hcs, hc⟩ := hkey.exists_cons
  rw [List.append_assoc, List.singleton_append]
  rw [hcs, List.cons_append] at hread ⊢
  rw [readHeader]
  · simp only [hread, Option.bind_eq_bind, Option.bind_some, dropChar?, if_true,
      skipLineEnd_newline, Option.pure_def]
  · intro rest heq
    exact absurd (List.cons.inj heq).1 (isBareKeyChar_ne hc (by decide))

theorem arrayHeader (h : Lines cs bindings sections) {key : String} (hkey : IsBare key) :
    Lines ('[' :: '[' :: (key.toList ++ [']', ']']) ++ '\n' :: cs) []
      (⟨true, [], key, bindings⟩ :: sections) := by
  refine h.header_of_readHeader ('[' :: (key.toList ++ [']', ']'])) ⟨true, [], key, []⟩ ?_
  have hread : readKey (key.toList ++ ']' :: ']' :: '\n' :: cs) =
      some (([], key), ']' :: ']' :: '\n' :: cs) :=
    readKey_bare hkey rfl rfl (by decide)
  have hsplit : '[' :: (key.toList ++ [']', ']']) ++ '\n' :: cs =
      '[' :: (key.toList ++ ']' :: ']' :: '\n' :: cs) := by simp
  have hclose : dropWord? "]]" (']' :: ']' :: '\n' :: cs) = some ('\n' :: cs) := rfl
  rw [hsplit, readHeader]
  simp only [hread, hclose, Option.bind_eq_bind, Option.bind_some, skipLineEnd_newline,
    Option.pure_def]

end Lines

/-! ## Printed tables -/

/-- Keys with their printed values, and the members that they give. -/
inductive PrintsMembers : List (String × List Char) → List (String × Toml) → Prop
  | nil : PrintsMembers [] []
  | cons {key : String} {cs : List Char} {v : Toml} {bs : List (String × List Char)}
      {ms : List (String × Toml)} : Prints v cs → PrintsMembers bs ms →
      PrintsMembers ((key, cs) :: bs) ((key, v) :: ms)

theorem Lines.members {bs : List (String × List Char)} {ms : List (String × Toml)}
    {cs : List Char} {sections : List Section} (h : Lines cs [] sections)
    (hprints : PrintsMembers bs ms) (hbare : ∀ key ∈ ms.map (·.1), IsBare key) :
    Lines (bs.flatMap (fun b => bindingLine b.1 b.2) ++ cs) (ms.map bindingOf) sections := by
  induction hprints with
  | nil => exact h
  | cons hv _ ih =>
      rw [List.flatMap_cons, List.append_assoc]
      exact (ih fun key hkey => hbare key (List.mem_cons_of_mem _ hkey)).binding
        (hbare _ List.mem_cons_self) hv

/-- Whether `text` is read as a section in front of any others. -/
def PrintsSection (s : Section) (text : List Char) : Prop :=
  ∀ cs sections, Lines cs [] sections → Lines (text ++ cs) [] (s :: sections)

theorem printTable_append (header : String) (bs : List (String × List Char)) (cs : List Char) :
    printTable header bs ++ cs =
      header.toList ++ '\n' :: (bs.flatMap (fun b => bindingLine b.1 b.2) ++ cs) := by
  simp [printTable, bindingLine]

theorem printsSection_table {key header : String} {bs : List (String × List Char)}
    {ms : List (String × Toml)} (hkey : IsBare key)
    (hheader : header.toList = '[' :: (key.toList ++ [']']))
    (hbare : ∀ name ∈ ms.map (·.1), IsBare name) (h : PrintsMembers bs ms) :
    PrintsSection (tableSection key ms) (printTable header bs) := by
  intro cs sections hcs
  rw [printTable_append, hheader]
  exact (hcs.members h hbare).header hkey

theorem printsSection_arrayTable {key header : String} {bs : List (String × List Char)}
    {ms : List (String × Toml)} (hkey : IsBare key)
    (hheader : header.toList = '[' :: '[' :: (key.toList ++ [']', ']']))
    (hbare : ∀ name ∈ ms.map (·.1), IsBare name) (h : PrintsMembers bs ms) :
    PrintsSection (arraySection key ms) (printTable header bs) := by
  intro cs sections hcs
  rw [printTable_append, hheader]
  exact (hcs.members h hbare).arrayHeader hkey

/-- Sections with an empty line in front of each. -/
theorem lines_sections (ps : List (Section × List Char)) (h : ∀ p ∈ ps, PrintsSection p.1 p.2) :
    Lines ((ps.map (·.2)).flatMap fun text => '\n' :: text) [] (ps.map (·.1)) := by
  induction ps with
  | nil => exact .nil
  | cons p ps ih =>
      have hrest := ih fun q hq => h q (List.mem_cons_of_mem _ hq)
      exact (h p List.mem_cons_self _ _ hrest).empty

theorem intercalate_newline (text : List Char) (texts : List (List Char)) :
    ['\n'].intercalate (text :: texts) = text ++ texts.flatMap fun t => '\n' :: t := by
  induction texts generalizing text with
  | nil => simp
  | cons t texts ih =>
      rw [List.intercalate_cons_cons, ih, List.flatMap_cons]
      simp

/-- Sections with an empty line between each two. -/
theorem lines_document (p : Section × List Char) (ps : List (Section × List Char))
    (h : ∀ q ∈ p :: ps, PrintsSection q.1 q.2) :
    Lines (['\n'].intercalate ((p :: ps).map (·.2))) [] ((p :: ps).map (·.1)) := by
  rw [List.map_cons, intercalate_newline]
  exact h p List.mem_cons_self _ _ (lines_sections ps fun q hq => h q (List.mem_cons_of_mem _ hq))

/-- A document of sections is read as the table that they make. -/
theorem read?_of_lines {c : Char} {cs : List Char} {sections : List Section} {root : Members}
    (hlines : Lines (c :: cs) [] sections) (hmark : c ≠ '\ufeff')
    (hroot : sections.foldlM addSection [] = some root) :
    read? (String.ofList (c :: cs)) = some (.table (finish root)) := by
  have hread := hlines ((c :: cs).length + 1) (Nat.lt_succ_self _)
  rw [read?, String.toList_ofList]
  split
  · rename_i heq
    exact absurd (List.cons.inj heq).1 hmark
  · simp only [hread, Option.bind_eq_bind, Option.bind_some]
    show (sections.foldlM addSection []).bind _ = _
    rw [hroot]
    rfl

end Interchain.Toml
