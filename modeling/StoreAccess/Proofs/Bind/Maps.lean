import StoreAccess.Proofs.Bind.Columns

/-! What a map holds once a row is bound into it. Under the name of a column it holds the value of the last column of
    the name, and elsewhere what it held. A row that is refused has left the columns before the one it was refused for.
    So which columns come first matters for errors, and for columns of one name, and for nothing else. -/

namespace StoreAccess

variable {options : BinderOptions} {columns before after : List Column} {row row' : Row} {fault : BindFault}
  {pattern : String} {c : Column} {d d' : Dict Value}

/-- `d'` is `d` with the values of the columns put in. -/
structure Row.FilledIn (row : Row) (columns : List Column) (pattern : String) (d d' : Dict Value) : Prop where
  /-- Of the columns of one name the last counts. -/
  last : ∀ before c after, columns = before ++ c :: after → (∀ b ∈ after, b.name ≠ c.name) →
    ∃ v, Value.decode c (row.get? c.name) pattern = .ok v ∧ d'.get? c.name = some v
  kept : ∀ name, (∀ c ∈ columns, c.name ≠ name) → d'.get? name = d.get? name

namespace RowTarget

theorem filledIn_of_ok (done : (bindColumns row options columns d).2 = .ok ()) :
    row.FilledIn columns options.pattern d (bindColumns row options columns d).1 := by
  refine ⟨fun before c after split last => ?_, fun name absent => get?_bindColumns_of_absent absent done⟩
  have place : columns[before.length]? = some c := by simp [split]
  have there : c ∈ columns := List.mem_of_getElem? place
  refine ⟨_, Column.decode_value (bindColumns_eq_ok_iff.mp done c there), ?_⟩
  refine get?_bindColumns_of_last place (fun j b later found => last b ?_) done
  -- What stands behind the index of `c` stands in `after`.
  rw [split, List.getElem?_append_right (Nat.le_of_lt later)] at found
  obtain ⟨k, behind⟩ := Nat.exists_eq_add_of_lt later
  rw [show j - before.length = k + 1 by omega, List.getElem?_cons_succ] at found
  exact List.mem_of_getElem? found

/-- Where a column is not decoded, the map is left as the columns before it have made it. -/
theorem bindColumns_of_split (earlier : ∀ b ∈ before, b.Decodes row options.pattern)
    (failed : Value.decode c (row.get? c.name) options.pattern = .error fault) (d : Dict Value) :
    bindColumns row options (before ++ c :: after) d = ((bindColumns row options before d).1, .error fault) := by
  induction before generalizing d with
  | nil =>
    simp only [List.nil_append, bindColumns, failed]
  | cons b before ih =>
    obtain ⟨decodes, others⟩ := List.forall_mem_cons.mp earlier
    have decoded := Column.decode_value decodes
    rw [List.cons_append, bindColumns, bindColumns, decoded]
    exact ih others (d.insert b.name _)

/-- Cells under other names than those of the columns do not count. -/
theorem bindColumns_congr (same : ∀ c ∈ columns, row'.get? c.name = row.get? c.name) (d : Dict Value) :
    bindColumns row' options columns d = bindColumns row options columns d := by
  induction columns generalizing d with
  | nil => rfl
  | cons c columns ih =>
    obtain ⟨first, others⟩ := List.forall_mem_cons.mp same
    rw [bindColumns, bindColumns, first]
    cases Value.decode c (row.get? c.name) options.pattern with
    | error fault => rfl
    | ok v => exact ih others (d.insert c.name v)

theorem bindColumns_fails_iff :
    (∃ fault, (bindColumns row options columns d).2 = .error fault) ↔
      ∃ c ∈ columns, ∃ fault, Value.decode c (row.get? c.name) options.pattern = .error fault := by
  simp only [bindColumns_eq_error_iff]
  constructor
  · rintro ⟨fault, before, c, after, rfl, -, failed⟩
    exact ⟨c, by simp, fault, failed⟩
  · rintro ⟨c, there, fault, failed⟩
    -- If no column were the first to fail, the row would be bound and `c` decoded.
    refine Classical.byContradiction fun none => ?_
    have done : (bindColumns row options columns d).2 = .ok () := by
      cases outcome : (bindColumns row options columns d).2 with
      | ok done => rfl
      | error fault => exact absurd ⟨fault, bindColumns_eq_error_iff.mp outcome⟩ none
    obtain ⟨v, decoded⟩ := bindColumns_eq_ok_iff.mp done c there
    rw [failed] at decoded
    cases decoded

end RowTarget

namespace Row.FilledIn

/-- Where each column has a name of its own, each is the last of its name. -/
theorem get?_of_mem (filled : row.FilledIn columns pattern d d') (distinct : (columns.map Column.name).Nodup)
    (there : c ∈ columns) : ∃ v, Value.decode c (row.get? c.name) pattern = .ok v ∧ d'.get? c.name = some v := by
  obtain ⟨before, after, rfl⟩ := List.append_of_mem there
  refine filled.last before c after rfl fun b later same => ?_
  rw [List.map_append, List.map_cons, List.nodup_append] at distinct
  exact (List.nodup_cons.mp distinct.2.1).1 (same ▸ List.mem_map_of_mem later)

/-- Columns with names of their own put in the same values in whatever order. -/
theorem get?_eq_of_perm {other : List Column} {d₁ d₂ : Dict Value} (distinct : (columns.map Column.name).Nodup)
    (perm : other.Perm columns) (filled : row.FilledIn columns pattern d d₁) (filled' : row.FilledIn other pattern d d₂)
    (name : String) : d₂.get? name = d₁.get? name := by
  by_cases named : ∃ c ∈ columns, c.name = name
  · obtain ⟨c, there, rfl⟩ := named
    obtain ⟨v, decoded, holds⟩ := filled.get?_of_mem distinct there
    obtain ⟨v', decoded', holds'⟩ :=
      filled'.get?_of_mem ((perm.map Column.name).nodup_iff.mpr distinct) (perm.mem_iff.mpr there)
    rw [decoded] at decoded'
    cases decoded'
    rw [holds, holds']
  · rw [not_exists] at named
    have absent : ∀ c ∈ columns, c.name ≠ name := fun c there same => named c ⟨there, same⟩
    rw [filled.kept name absent, filled'.kept name fun c there => absent c (perm.mem_iff.mp there)]

end Row.FilledIn

namespace RowTarget

/-- Binding a row into a map fails iff a column is not decoded, with the fault of the first such column and with the
    columns before it put in. A row that is bound has put in all its columns, and what it carries besides them does not
    count. If each column has a name of its own, the order of the columns does not matter to whether the row is bound,
    nor to what the map holds then. -/
theorem map_filled_by_columns (columns : List Column) (row : Row) (options : BinderOptions) (d : Dict Value) :
    let bound := map.bindRow columns row options d
    ((∃ fault, bound.2 = .error fault) ↔
      ∃ c ∈ columns, ∃ fault, Value.decode c (row.get? c.name) options.pattern = .error fault) ∧
    (∀ before c after fault, columns = before ++ c :: after → (∀ b ∈ before, b.Decodes row options.pattern) →
      Value.decode c (row.get? c.name) options.pattern = .error fault →
      bound.2 = .error fault ∧ row.FilledIn before options.pattern d bound.1) ∧
    (bound.2 = .ok () → row.FilledIn columns options.pattern d bound.1) ∧
    (∀ row' : Row, (∀ c ∈ columns, row'.get? c.name = row.get? c.name) →
      map.bindRow columns row' options d = bound) ∧
    ((columns.map Column.name).Nodup → ∀ other : List Column, other.Perm columns →
      let bound' := map.bindRow other row options d
      (bound'.2 = .ok () ↔ bound.2 = .ok ()) ∧
        (bound.2 = .ok () → ∀ name, bound'.1.get? name = bound.1.get? name)) := by
  intro bound
  refine ⟨bindColumns_fails_iff, ?_, filledIn_of_ok, fun row' same => bindColumns_congr same d, ?_⟩
  · rintro before c after fault rfl earlier failed
    have stopped : bound = ((bindColumns row options before d).1, .error fault) := bindColumns_of_split earlier failed d
    rw [stopped]
    exact ⟨rfl, filledIn_of_ok (bindColumns_eq_ok_iff.mpr earlier)⟩
  · intro distinct other perm bound'
    have same : bound'.2 = .ok () ↔ bound.2 = .ok () := by
      refine bindColumns_eq_ok_iff.trans (Iff.trans ?_ bindColumns_eq_ok_iff.symm)
      exact forall_congr' fun c => imp_congr_left perm.mem_iff
    refine ⟨same, fun done name => ?_⟩
    exact Row.FilledIn.get?_eq_of_perm distinct perm (filledIn_of_ok done) (filledIn_of_ok (same.mpr done)) name

/-- Two columns of one name and one without a cell, into a map that holds something else: the last column of the name
    gives the value. -/
theorem map_filled_by_second_column :
    let columns : List Column := [⟨"n", "BIGINT"⟩, ⟨"gone", "FLOAT"⟩, ⟨"n", "VARCHAR(9)"⟩]
    let row := Row.ofList [("n", some "7"), ("unread", some "x")]
    let d := Dict.ofList [("kept", Value.float (.infinite true)), ("n", .null)]
    let bound := map.bindRow columns row .default d
    bound.2 = .ok () ∧ row.FilledIn columns defaultPattern d bound.1 ∧
      bound.1.entries = [("kept", .float (.infinite true)), ("n", .text "7"), ("gone", .null)] := by
  intro columns row d bound
  have done : bound.2 = .ok () := rfl
  obtain ⟨-, -, filled, -⟩ := map_filled_by_columns columns row .default d
  exact ⟨done, filled done, by decide +kernel⟩

end RowTarget

end StoreAccess
