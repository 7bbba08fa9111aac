import StoreAccess.Bind.Binder
import StoreAccess.Proofs.Data.Outcomes

/-! Binding a row into a map takes the columns one after the other and stops at the first that is not decoded. Of
    columns with one name all are decoded, and the last is what the map holds. A sequence takes the rows of a result
    in the same way. -/

namespace StoreAccess

variable {options : BinderOptions} {columns : List Column} {row : Row} {fault : BindFault}

/-- What a column makes of a row is a value. -/
def Column.Decodes (c : Column) (row : Row) (pattern : String) : Prop :=
  ∃ v, Value.decode c (row.get? c.name) pattern = .ok v

/-- The value, if there is one. -/
def Column.value (c : Column) (row : Row) (pattern : String) : Value :=
  (Value.decode c (row.get? c.name) pattern).toOption.getD .null

theorem Column.decode_value {c : Column} {pattern : String} (decodes : c.Decodes row pattern) :
    Value.decode c (row.get? c.name) pattern = .ok (c.value row pattern) := by
  obtain ⟨v, decoded⟩ := decodes
  rw [value, decoded]
  rfl

namespace RowTarget

/-! ### Outcomes -/

theorem bindColumns_outcome (row : Row) (options : BinderOptions) (columns : List Column) (d : Dict Value) :
    (bindColumns row options columns d).2 =
      forM columns fun c => (Value.decode c (row.get? c.name) options.pattern).map fun _ => () := by
  induction columns generalizing d with
  | nil => rfl
  | cons c columns ih =>
    rw [bindColumns, List.forM_cons]
    cases Value.decode c (row.get? c.name) options.pattern with
    | error fault => rfl
    | ok v => exact ih (d.insert c.name v)

theorem bindColumns_eq_ok_iff {d : Dict Value} :
    (bindColumns row options columns d).2 = .ok () ↔ ∀ c ∈ columns, c.Decodes row options.pattern := by
  simp only [bindColumns_outcome, forM_eq_ok_iff, Except.map_unit_eq_ok_iff, Column.Decodes]

/-- The fault is that of the first column that is not decoded. -/
theorem bindColumns_eq_error_iff {d : Dict Value} :
    (bindColumns row options columns d).2 = .error fault ↔
      ∃ before c after, columns = before ++ c :: after ∧ (∀ b ∈ before, b.Decodes row options.pattern) ∧
        Value.decode c (row.get? c.name) options.pattern = .error fault := by
  simp only [bindColumns_outcome, forM_eq_error_iff, Except.map_unit_eq_ok_iff, Except.map_eq_error_iff, Column.Decodes]

/-! ### Contents -/

/-- Once all columns are decoded, their values are in the map. -/
theorem bindColumns_target {d : Dict Value} (done : (bindColumns row options columns d).2 = .ok ()) :
    (bindColumns row options columns d).1 =
      (columns.map fun c => (c.name, c.value row options.pattern)).foldl (fun d p => d.insert p.1 p.2) d := by
  induction columns generalizing d with
  | nil => rfl
  | cons c columns ih =>
    have decoded := Column.decode_value (bindColumns_eq_ok_iff.mp done c List.mem_cons_self)
    rw [bindColumns, decoded] at done ⊢
    exact ih done

theorem get?_bindColumns_of_absent {name : String} (absent : ∀ c ∈ columns, c.name ≠ name) {d : Dict Value}
    (done : (bindColumns row options columns d).2 = .ok ()) :
    (bindColumns row options columns d).1.get? name = d.get? name := by
  rw [bindColumns_target done]
  refine Dict.get?_foldl_of_absent (fun p there => ?_) d
  obtain ⟨c, column, rfl⟩ := List.mem_map.mp there
  exact absent c column

/-- Of columns with one name the last gives the value. -/
theorem get?_bindColumns_of_last {index : Nat} {c : Column} (place : columns[index]? = some c)
    (last : ∀ j b, index < j → columns[j]? = some b → b.name ≠ c.name) {d : Dict Value}
    (done : (bindColumns row options columns d).2 = .ok ()) :
    (bindColumns row options columns d).1.get? c.name = some (c.value row options.pattern) := by
  rw [bindColumns_target done]
  have placed : (columns.map fun c => (c.name, c.value row options.pattern))[index]? =
      some (c.name, c.value row options.pattern) := by rw [List.getElem?_map, place, Option.map_some]
  refine Dict.get?_foldl_of_last placed (fun j p after there => ?_) d
  rw [List.getElem?_map, Option.map_eq_some_iff] at there
  obtain ⟨b, column, rfl⟩ := there
  exact last j b after column

end RowTarget

/-! ### Sequences -/

namespace Binder

variable {α : Type} {t : RowTarget α} {rows : List Row}

theorem appendRows_outcome (t : RowTarget α) (options : BinderOptions) (columns : List Column) (rows : List Row)
    (s : Sequence α) :
    (appendRows t options columns rows s).2 = forM rows fun row => (t.bindRow columns row options t.initial).2 := by
  induction rows generalizing s with
  | nil => rfl
  | cons row rows ih =>
    rw [List.forM_cons, appendRows]
    cases t.bindRow columns row options t.initial with
    | mk x outcome =>
      cases outcome with
      | error fault => rfl
      | ok done => exact ih (s.reserve.push x)

/-- The fault is that of the first row that is not bound. -/
theorem appendRows_eq_error_iff {s : Sequence α} :
    (appendRows t options columns rows s).2 = .error fault ↔
      ∃ before row after, rows = before ++ row :: after ∧
        (∀ b ∈ before, (t.bindRow columns b options t.initial).2 = .ok ()) ∧
        (t.bindRow columns row options t.initial).2 = .error fault := by
  rw [appendRows_outcome, forM_eq_error_iff]

end Binder

end StoreAccess
