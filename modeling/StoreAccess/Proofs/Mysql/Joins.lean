import StoreAccess.Proofs.Bind.Columns
import StoreAccess.Proofs.Bind.Numbers
import StoreAccess.Proofs.Mysql.Cells

/-! Result sets with columns of one name, as joins make them. A row keeps one text for each name, that of the last
    column of the name, while each column keeps its own declared type. So a map gets the value of the last column
    under its own type, if the types of all columns of the name take its text; where they do not, the row is refused
    although each cell is a value of its own column. -/

namespace StoreAccess

/-! ### Families -/

namespace Value

variable {column column' : Column} {text : Option String} {pattern : String} {v : Value}

/-- What a column makes of a text is a matter of the family of its type; its name counts only in errors. -/
theorem decode_eq_ok_congr (same : column.family = column'.family) :
    decode column text pattern = .ok v ↔ decode column' text pattern = .ok v := by
  cases text with
  | none => exact Iff.rfl
  | some raw =>
    unfold decode
    rw [same]
    cases column'.family with
    | integer =>
      dsimp only
      rw [FieldValue.readInt_about column.name, FieldValue.readInt_about column'.name]
      cases FieldValue.readInt .i64 "" raw with
      | ok n => exact Iff.rfl
      | error e => split <;> simp [Except.mapError, Except.map]
    | float =>
      dsimp only
      rw [FieldValue.readFloat_about column.name, FieldValue.readFloat_about column'.name]
      cases FieldValue.readFloat .double "f64" "" raw with
      | ok x => exact Iff.rfl
      | error e => split <;> simp [Except.mapError, Except.map]
    | datetime => exact Iff.rfl
    | boolean => exact Iff.rfl
    | text => exact Iff.rfl

end Value

namespace Mysql

variable {columns : List ColumnInfo} {index : Nat} {c : ColumnInfo}

/-- The column is at the index, and none after it has its name. -/
structure LastOfName (columns : List ColumnInfo) (index : Nat) (c : ColumnInfo) : Prop where
  place : columns[index]? = some c
  last : ∀ j b, index < j → columns[j]? = some b → b.name ≠ c.name

theorem exists_lastOfName (there : c ∈ columns) : ∃ index l, LastOfName columns index l ∧ l.name = c.name := by
  induction columns generalizing c with
  | nil => cases there
  | cons head columns ih =>
    by_cases later : ∃ b ∈ columns, b.name = c.name
    · obtain ⟨b, among, same⟩ := later
      obtain ⟨index, l, ⟨place, last⟩, ofB⟩ := ih among
      refine ⟨index + 1, l, ⟨place, fun j b after there => ?_⟩, ofB.trans same⟩
      cases j with
      | zero => cases after
      | succ j => exact last j b (Nat.lt_of_succ_lt_succ after) there
    · rcases List.mem_cons.mp there with rfl | among
      · refine ⟨0, c, ⟨rfl, fun j b after there => ?_⟩, rfl⟩
        cases j with
        | zero => cases after
        | succ j => exact fun same => later ⟨b, List.mem_of_getElem? there, same⟩
      · exact absurd ⟨c, among, rfl⟩ later

/-- The text of the cell at an index; there is none where data are missing. -/
def textAt (data : List Datum) (index : Nat) : Option String :=
  (data[index]?).bind Datum.text?

namespace ResultSet

/-! ### Rows -/

theorem get?_row_of_last (last : LastOfName columns index c) (data : List Datum) :
    (row columns data).get? c.name = textAt data index := by
  have cell (j : Nat) : (cells columns data)[j]? = (columns[j]?).map fun c => (c.name, textAt data j) := by
    rw [cells, List.getElem?_map, List.getElem?_zipIdx, Nat.zero_add]
    cases columns[j]? <;> rfl
  have place : (cells columns data)[index]? = some (c.name, textAt data index) := by rw [cell, last.place]; rfl
  have found : (row columns data).cells.get? c.name = some (textAt data index) := by
    refine Dict.get?_foldl_of_last place (fun j p after there => ?_) .empty
    rw [cell, Option.map_eq_some_iff] at there
    obtain ⟨b, column, rfl⟩ := there
    exact last.last j b after column
  rw [Row.get?, found, Option.join_some]

/-- The cell at each index is a value of the column there. -/
def Sound (columns : List ColumnInfo) (data : List Datum) (pattern : String) : Prop :=
  ∀ index c, columns[index]? = some c → ∃ v, Value.decode c.column (textAt data index) pattern = .ok v

/-- Columns of one name have types of one family. -/
def OneFamily (columns : List ColumnInfo) : Prop :=
  ∀ c ∈ columns, ∀ c' ∈ columns, c.name = c'.name → c.column.family = c'.column.family

/-- What binding a row of a table to a map comes to, by the data that the row was made of. -/
structure Mapped (columns : List ColumnInfo) (pattern : String) (data : List Datum) (d : Dict Value)
    (bound : Dict Value × Except BindFault Unit) : Prop where
  /-- The row is bound iff the types of all columns take the text of the last cell under their names. -/
  bound_iff : bound.2 = .ok () ↔ ∀ c ∈ columns, ∀ index l, LastOfName columns index l → l.name = c.name →
    ∃ v, Value.decode c.column (textAt data index) pattern = .ok v
  /-- Each name then has the value of its last cell, by the type of the column that this cell is of. -/
  holds : bound.2 = .ok () → ∀ index c, LastOfName columns index c →
    ∃ v, Value.decode c.column (textAt data index) pattern = .ok v ∧ bound.1.get? c.name = some v
  keeps : bound.2 = .ok () → ∀ name, (∀ c ∈ columns, c.name ≠ name) → bound.1.get? name = d.get? name
  /-- Where columns of one name have one family, it is enough that each cell is a value of its own column. -/
  bound_of_sound : OneFamily columns → Sound columns data pattern → bound.2 = .ok ()

theorem mapped_row (columns : List ColumnInfo) (options : BinderOptions) (data : List Datum) (d : Dict Value) :
    Mapped columns options.pattern data d
      (RowTarget.map.bindRow (columns.map ColumnInfo.column) (row columns data) options d) := by
  have bound_iff : (RowTarget.bindColumns (row columns data) options (columns.map ColumnInfo.column) d).2 = .ok () ↔
      ∀ c ∈ columns, ∀ index l, LastOfName columns index l → l.name = c.name →
        ∃ v, Value.decode c.column (textAt data index) options.pattern = .ok v := by
    rw [RowTarget.bindColumns_eq_ok_iff, List.forall_mem_map]
    refine forall₂_congr fun c there => ?_
    show (∃ v, Value.decode c.column ((row columns data).get? c.name) options.pattern = .ok v) ↔ _
    constructor
    · intro decodes index l last same
      rwa [← same, get?_row_of_last last] at decodes
    · intro decodes
      obtain ⟨index, l, last, same⟩ := exists_lastOfName there
      rw [← same, get?_row_of_last last]
      exact decodes index l last same
  refine ⟨bound_iff, fun done index c last => ?_, fun done name absent => ?_, fun oneFamily sound => ?_⟩
  · have place : (columns.map ColumnInfo.column)[index]? = some c.column := by
      rw [List.getElem?_map, last.place, Option.map_some]
    have decoded := Column.decode_value (RowTarget.bindColumns_eq_ok_iff.mp done c.column (List.mem_of_getElem? place))
    rw [show c.column.name = c.name from rfl, get?_row_of_last last] at decoded
    refine ⟨_, decoded, RowTarget.get?_bindColumns_of_last place (fun j b after there => ?_) done⟩
    rw [List.getElem?_map, Option.map_eq_some_iff] at there
    obtain ⟨b, column, rfl⟩ := there
    exact last.last j b after column
  · refine RowTarget.get?_bindColumns_of_absent (fun b there => ?_) done
    obtain ⟨c, column, rfl⟩ := List.mem_map.mp there
    exact absent c column
  · refine bound_iff.mpr fun c there index l last same => ?_
    obtain ⟨v, decoded⟩ := sound index l last.place
    -- The cell is of another column, whose type reads it in the same way.
    have family := oneFamily c there l (List.mem_of_getElem? last.place) same.symm
    exact ⟨v, (Value.decode_eq_ok_congr family).mpr decoded⟩

/-- Each row of the table of a result set is bound to maps by the last cell under each name, which the types of all
    columns of the name have to take. So rows whose cells are values of their own columns are bound, each name to the
    value of its last cell, as long as columns of one name have types of one family. -/
theorem rows_mapped_by_last (columns : List ColumnInfo) (rows : List (List Datum)) (options : BinderOptions) :
    List.Forall₂ (fun data row => ∀ d, Mapped columns options.pattern data d
      (RowTarget.map.bindRow (table columns rows).columns row options d)) rows (table columns rows).rows := by
  rw [table, List.forall₂_map_right_iff]
  exact List.forall₂_same.mpr fun data _ => mapped_row columns options data

/-- A number and a text under one name: each is a value of its own column, and the row is refused, since the text is
    read as a number too. -/
theorem joined_text_read_as_number :
    let columns : List ColumnInfo := [⟨"id", 3, 0⟩, ⟨"id", 253, 0⟩]
    let data : List Datum := [.int 5, .bytes [0x61, 0x62, 0x63]]
    Sound columns data defaultPattern ∧
      (Binder.bindOne .map .default (table columns [data])).outcome =
        .error (.row (.refused (.parse "id" "abc" "i64"))) := by
  intro columns data
  refine ⟨fun index c place => ?_, by decide +kernel⟩
  match index with
  | 0 =>
    cases place
    exact ⟨.int 5, by decide +kernel⟩
  | 1 =>
    cases place
    exact ⟨.text "abc", by decide +kernel⟩
  | index + 2 => cases place

end ResultSet

end Mysql

end StoreAccess
