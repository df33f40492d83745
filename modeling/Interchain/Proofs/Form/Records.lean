import Interchain.Form.Document

/-!
# Records of any format

What the readers of numbers, lists and records find in a document of any format whose parts are
known.
-/

set_option autoImplicit false

namespace Interchain

namespace Document

variable {δ α : Type} [Document δ]

theorem nat?_of_integer {d : δ} {bound n : Nat} (hd : integer? d = some (n : Int))
    (h : n < bound) : nat? bound d = some n := by
  have hbound : (0 : Int) ≤ n ∧ (n : Int) < bound := by omega
  rw [nat?, hd]
  exact if_pos hbound

/-- A list of what is written for each item is read as the items. -/
theorem list?_of_items {encode : α → δ} {decode : δ → Option α} {d : δ} {as : List α}
    (hd : items? d = some (as.map encode)) (h : ∀ a, decode (encode a) = some a) :
    list? decode d = some as := by
  have hitems : (as.map encode).mapM decode = some as := by
    clear hd
    induction as with
    | nil => rfl
    | cons a as ih =>
        rw [List.map_cons, List.mapM_cons, h, ih]
        rfl
  rw [list?, hd]
  exact hitems

end Document

namespace Record

variable {δ α : Type}

@[simp]
theorem field?_cons_self (name : String) (v : δ) (r : Record δ) (decode : δ → Option α) :
    Record.field? ((name, v) :: r) name decode = decode v := by
  rw [Record.field?, List.lookup_cons, beq_self_eq_true]
  rfl

@[simp]
theorem field?_cons_of_ne {wanted name : String} (h : wanted ≠ name) (v : δ) (r : Record δ)
    (decode : δ → Option α) :
    Record.field? ((name, v) :: r) wanted decode = Record.field? r wanted decode := by
  rw [Record.field?, List.lookup_cons, beq_false_of_ne h, Record.field?]

@[simp]
theorem fieldOr?_cons_self (name : String) (v : δ) (r : Record δ) (default : α)
    (decode : δ → Option α) :
    Record.fieldOr? ((name, v) :: r) name default decode = decode v := by
  rw [Record.fieldOr?, List.lookup_cons, beq_self_eq_true]

@[simp]
theorem fieldOr?_cons_of_ne {wanted name : String} (h : wanted ≠ name) (v : δ) (r : Record δ)
    (default : α) (decode : δ → Option α) :
    Record.fieldOr? ((name, v) :: r) wanted default decode =
      Record.fieldOr? r wanted default decode := by
  rw [Record.fieldOr?, List.lookup_cons, beq_false_of_ne h, Record.fieldOr?]

@[simp]
theorem fieldOr?_nil (wanted : String) (default : α) (decode : δ → Option α) :
    Record.fieldOr? [] wanted default decode = some default :=
  rfl

/-- The record of members that are all fields has them all. -/
theorem ofDocument?_of_members [Document δ] {d : δ} {names : List String} {ms : Record δ}
    (hd : Document.members? d = some ms) (hnames : (ms.map (·.1)).Sublist names)
    (hnodup : names.Nodup) : ofDocument? names d = some ms := by
  have hknown : ms.filter (fun m => names.contains m.1) = ms :=
    List.filter_eq_self.2 fun m hm =>
      List.contains_iff_mem.2 (hnames.subset (List.mem_map_of_mem hm))
  rw [ofDocument?, hd]
  simp only [hknown, if_pos (hnames.nodup hnodup)]

end Record

end Interchain
