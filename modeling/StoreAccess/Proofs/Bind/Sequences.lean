import StoreAccess.Proofs.Bind.Columns

/-! A sequence gets from each row of a result what the row alone gives a new target, up to the first row that fails. Of
    this one it gets what was bound before the failure, and of the rows after it nothing. -/

namespace StoreAccess

variable {α : Type} {t : RowTarget α} {options : BinderOptions} {columns : List Column} {result : Table} {row : Row}
  {rows : List Row}

/-- The result with one row and no other. -/
def Table.only (result : Table) (row : Row) : Table :=
  ⟨result.columns, [row]⟩

namespace Binder

/-- Only the first row of a result counts. -/
theorem bindInto_of_first (first : result.rows = row :: rows) (x : α) :
    (bindInto t options result x).target = (t.bindRow result.columns row options x).1 ∧
      (bindInto t options result x).outcome = (t.bindRow result.columns row options x).2.mapError .row := by
  simp only [bindInto, first]
  rcases t.bindRow result.columns row options x with ⟨y, fault | done⟩
  · exact ⟨rfl, rfl⟩
  · exact ⟨rfl, rfl⟩

/-- The index of the first row that a new target does not take; the number of rows if it takes all. -/
def firstFailing (t : RowTarget α) (options : BinderOptions) (columns : List Column) (rows : List Row) : Nat :=
  rows.findIdx fun row => !(t.bindRow columns row options t.initial).2.isOk

theorem firstFailing_of_ok (bound : (t.bindRow columns row options t.initial).2 = .ok ()) :
    firstFailing t options columns (row :: rows) = firstFailing t options columns rows + 1 := by
  rw [firstFailing, List.findIdx_cons, bound]
  rfl

theorem firstFailing_of_error {fault : BindFault} (fails : (t.bindRow columns row options t.initial).2 = .error fault) :
    firstFailing t options columns (row :: rows) = 0 := by
  rw [firstFailing, List.findIdx_cons, fails]
  rfl

theorem bound_of_mem_take (there : row ∈ rows.take (firstFailing t options columns rows)) :
    (t.bindRow columns row options t.initial).2 = .ok () := by
  rw [firstFailing, ← List.takeWhile_eq_take_findIdx_not] at there
  have bound := List.all_eq_true.mp List.all_takeWhile row there
  cases outcome : (t.bindRow columns row options t.initial).2 with
  | error fault =>
    rw [outcome] at bound
    cases bound
  | ok done => rfl

theorem exists_fault_of_firstFailing (next : rows[firstFailing t options columns rows]? = some row) :
    ∃ fault, (t.bindRow columns row options t.initial).2 = .error fault := by
  obtain ⟨there, rfl⟩ := List.getElem?_eq_some_iff.mp next
  have fails : (!(t.bindRow columns rows[firstFailing t options columns rows] options t.initial).2.isOk) = true :=
    @List.findIdx_getElem _ (fun row => !(t.bindRow columns row options t.initial).2.isOk) rows there
  cases outcome : (t.bindRow columns rows[firstFailing t options columns rows] options t.initial).2 with
  | error fault => exact ⟨fault, rfl⟩
  | ok done =>
    rw [outcome] at fails
    cases fails

/-- Each row up to the first that fails leaves an element, and so does this one. -/
theorem appendRows_items (t : RowTarget α) (options : BinderOptions) (columns : List Column) (rows : List Row)
    (s : Sequence α) :
    (appendRows t options columns rows s).1.items = s.items ++
      (rows.take (firstFailing t options columns rows + 1)).map fun row =>
        (t.bindRow columns row options t.initial).1 := by
  induction rows generalizing s with
  | nil => exact (List.append_nil s.items).symm
  | cons row rows ih =>
    rcases bound : t.bindRow columns row options t.initial with ⟨x, fault | done⟩
    · rw [firstFailing_of_error (congrArg Prod.snd bound), List.take_succ_cons, List.take_zero, List.map_singleton,
        appendRows, bound]
      -- What was bound of the row is appended before its error is reported.
      exact congrArg (· ++ [x]) s.items_reserve
    · rw [firstFailing_of_ok (congrArg Prod.snd bound), List.take_succ_cons, List.map_cons, appendRows, bound]
      rw [ih, Sequence.items_push, Sequence.items_reserve, List.append_assoc, List.singleton_append]

/-- What the row gives a new target, without the other rows of the result. -/
def alone (t : RowTarget α) (options : BinderOptions) (result : Table) (row : Row) : Binding α :=
  bindOne t options (result.only row)

theorem alone_eq (t : RowTarget α) (options : BinderOptions) (result : Table) (row : Row) :
    (alone t options result row).target = (t.bindRow result.columns row options t.initial).1 ∧
      (alone t options result row).outcome = (t.bindRow result.columns row options t.initial).2.mapError .row :=
  bindInto_of_first rfl t.initial

/-- What appending the rows of a result to a sequence comes to, by what each row gives alone, if the first `k` rows
    are bound and the one after them is not. -/
structure RowByRow (t : RowTarget α) (options : BinderOptions) (result : Table) (s : Sequence α) (k : Nat)
    (bound : Binding (Sequence α)) : Prop where
  before : ∀ row ∈ result.rows.take k, (alone t options result row).outcome = .ok ()
  /-- What was there is kept, and the elements of the first rows come after it in their order. -/
  appended : s.items ++ (result.rows.take k).map (fun row => (alone t options result row).target) <+: bound.target.items
  /-- There is no other row. -/
  finished : result.rows[k]? = none → bound.outcome = .ok () ∧
    bound.target.items = s.items ++ result.rows.map fun row => (alone t options result row).target
  /-- The next row fails as it does alone. If it reports an error, what was bound of it is appended too. -/
  stopped : ∀ row, result.rows[k]? = some row → ∃ fault,
    (alone t options result row).outcome = .error (.row fault) ∧ bound.outcome = .error (.row fault) ∧
      ∀ e, fault = .refused e → bound.target.items =
        s.items ++ ((result.rows.take k).map fun row => (alone t options result row).target) ++
          [(t.bindRow result.columns row options t.initial).1]

theorem bindAll_eq (t : RowTarget α) (options : BinderOptions) (result : Table) (s : Sequence α) :
    (bindAll t options result s).target = (appendRows t options result.columns result.rows s).1 ∧
      (bindAll t options result s).outcome =
        (appendRows t options result.columns result.rows s).2.mapError .row := by
  rw [bindAll]
  rcases appendRows t options result.columns result.rows s with ⟨s', fault | done⟩
  · exact ⟨rfl, rfl⟩
  · exact ⟨rfl, rfl⟩

theorem bindAll_outcome (t : RowTarget α) (options : BinderOptions) (result : Table) (s : Sequence α) :
    (bindAll t options result s).outcome =
      (result.rows[firstFailing t options result.columns result.rows]?).elim (.ok ()) fun row =>
        (alone t options result row).outcome := by
  rw [(bindAll_eq t options result s).2, appendRows_outcome, forM_eq_elim, ← firstFailing]
  simp only [(alone_eq t options result _).2]
  cases result.rows[firstFailing t options result.columns result.rows]? with
  | none => rfl
  | some row => rfl

theorem bindAll_items (t : RowTarget α) (options : BinderOptions) (result : Table) (s : Sequence α) :
    (bindAll t options result s).target.items = s.items ++
      (result.rows.take (firstFailing t options result.columns result.rows + 1)).map fun row =>
        (alone t options result row).target := by
  simp only [(bindAll_eq t options result s).1, appendRows_items, (alone_eq t options result _).1]

theorem rowByRow (t : RowTarget α) (options : BinderOptions) (result : Table) (s : Sequence α) :
    RowByRow t options result s (firstFailing t options result.columns result.rows) (bindAll t options result s) := by
  have items := bindAll_items t options result s
  have outcome := bindAll_outcome t options result s
  rw [List.take_add_one, List.map_append, ← List.append_assoc] at items
  refine ⟨fun row there => ?_, ⟨_, items.symm⟩, fun all => ?_, fun row next => ?_⟩
  · rw [(alone_eq t options result row).2, bound_of_mem_take there]
    rfl
  · have total : result.rows.take (firstFailing t options result.columns result.rows) = result.rows :=
      List.take_of_length_le (List.getElem?_eq_none_iff.mp all)
    rw [all] at outcome
    rw [all, total] at items
    exact ⟨outcome, items.trans (List.append_nil _)⟩
  · obtain ⟨fault, fails⟩ := exists_fault_of_firstFailing next
    have same : (alone t options result row).outcome = .error (.row fault) := by
      rw [(alone_eq t options result row).2, fails]
      rfl
    rw [next] at outcome items
    refine ⟨fault, same, outcome.trans same, fun e reported => items.trans ?_⟩
    rw [← (alone_eq t options result row).1]
    rfl

/-- Appending a result to a sequence does row by row what binding a row alone does, up to the first row that fails:
    elements that were there are kept, each row before it gives the element that it gives alone, and this one leaves
    what was bound of it and its error. Collecting a result is appending it to a sequence without elements, so it fails
    iff some row does; a result without rows is no failure there, but it is one where a single row is wanted. -/
theorem bindAll_rowByRow (t : RowTarget α) (options : BinderOptions) (result : Table) :
    (∀ s, RowByRow t options result s (firstFailing t options result.columns result.rows)
      (bindAll t options result s)) ∧
    (∀ capacity,
      (collect t options result).target.items = (bindAll t options result (.withCapacity capacity)).target.items ∧
      (collect t options result).outcome = (bindAll t options result (.withCapacity capacity)).outcome) ∧
    ((collect t options result).outcome ≠ .ok () ↔
      ∃ row ∈ result.rows, (alone t options result row).outcome ≠ .ok ()) ∧
    ∀ columns, (collect t options ⟨columns, []⟩).outcome = .ok () ∧
      (collect t options ⟨columns, []⟩).target.items = [] ∧
      (bindOne t options ⟨columns, []⟩).outcome = .error .notFound := by
  have same (s s' : Sequence α) (items : s.items = s'.items) :
      (bindAll t options result s).target.items = (bindAll t options result s').target.items ∧
        (bindAll t options result s).outcome = (bindAll t options result s').outcome := by
    simp only [bindAll_items, bindAll_outcome, items, and_self]
  refine ⟨rowByRow t options result, fun capacity => same _ _ rfl, ?_, fun columns => ⟨rfl, rfl, rfl⟩⟩
  have succeeds : (collect t options result).outcome = .ok () ↔
      ∀ row ∈ result.rows, (alone t options result row).outcome = .ok () := by
    rw [collect, (bindAll_eq t options result _).2, Except.mapError_eq_ok_iff, appendRows_outcome, forM_eq_ok_iff]
    simp only [(alone_eq t options result _).2, Except.mapError_eq_ok_iff]
  simp only [ne_eq, succeeds, Classical.not_forall, exists_prop]

/-- Three rows after a map that was there, the second with a text that is no number: its first number is kept, and the
    third row is not looked at. -/
theorem second_row_rowByRow :
    let row (a b : String) := Row.ofList [("a", some a), ("b", some b)]
    let result : Table := ⟨[⟨"a", "INT"⟩, ⟨"b", "INT"⟩], [row "1" "2", row "3" "x", row "5" "6"]⟩
    let bound := bindAll .map .default result ⟨[.ofList [("a", .null)]], 1⟩
    bound.outcome = .error (.row (.refused (.parse "b" "x" "i64"))) ∧
      bound.target.items = [.ofList [("a", .null)], .ofList [("a", .int 1), ("b", .int 2)], .ofList [("a", .int 3)]] ∧
      (alone .map .default result (row "1" "2")).outcome = .ok () := by
  intro row result bound
  obtain ⟨rowByRow, -⟩ := bindAll_rowByRow .map .default result
  obtain ⟨before, -, -, stopped⟩ := rowByRow ⟨[.ofList [("a", .null)]], 1⟩
  obtain ⟨fault, own, outcome, left⟩ := stopped (row "3" "x") (by decide +kernel)
  have reported : (alone .map .default result (row "3" "x")).outcome =
      .error (.row (.refused (.parse "b" "x" "i64"))) := rfl
  cases own.symm.trans reported
  exact ⟨outcome, (left _ rfl).trans (by decide +kernel), before _ (by decide +kernel)⟩

end Binder

end StoreAccess
