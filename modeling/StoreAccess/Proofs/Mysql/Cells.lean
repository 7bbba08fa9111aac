import Mathlib.Data.List.Forall2
import StoreAccess.Mysql.ResultSet
import StoreAccess.Proofs.Bind.Texts
import StoreAccess.Proofs.Text.Utf8

/-! From the data that a server sends to the fields of records. A row of the table gives each column the text of its
    datum, and fields read that text: numbers and texts come out as they were sent, or the field reports that it does
    not hold the number. -/

namespace StoreAccess
namespace Mysql

variable {columns : List ColumnInfo} {data : List Datum} {rows : List (List Datum)} {index : Nat} {c : ColumnInfo}

/-- The whole number that a datum is, with a sign or without one. -/
def Datum.integer? : Datum → Option Int
  | int n => some n
  | uint n => some n
  | _ => none

theorem Datum.text?_of_integer? {d : Datum} {n : Int} (number : d.integer? = some n) :
    d.text? = some (String.ofList (intText n)) := by
  cases d <;> simp only [integer?, Option.some.injEq, reduceCtorEq] at number
  case int n => rw [text?, number]
  case uint n =>
    rw [text?, ← number, intText, if_neg (by omega)]
    rfl

theorem Datum.text?_utf8 (s : String) : (bytes (Text.utf8 s)).text? = some s :=
  congrArg some (Text.ofUtf8_utf8 s)

namespace ResultSet

/-! ### Rows -/

/-- What a row of data gives each column, by position. -/
def cells (columns : List ColumnInfo) (data : List Datum) : List (String × Option String) :=
  columns.zipIdx.map fun p => (p.1.name, (data[p.2]?).bind Datum.text?)

theorem map_fst_cells (columns : List ColumnInfo) (data : List Datum) :
    (cells columns data).map Prod.fst = columns.map ColumnInfo.name := by
  rw [cells, List.map_map]
  show columns.zipIdx.map (ColumnInfo.name ∘ Prod.fst) = _
  rw [← List.map_map, List.zipIdx_map_fst]

theorem entries_row (distinct : (columns.map ColumnInfo.name).Nodup) (data : List Datum) :
    (row columns data).cells.entries = cells columns data :=
  Dict.entries_ofList (show ((cells columns data).map Prod.fst).Nodup by rwa [map_fst_cells])

theorem get?_row (distinct : (columns.map ColumnInfo.name).Nodup) (place : columns[index]? = some c) :
    (row columns data).get? c.name = (data[index]?).bind Datum.text? := by
  have there : (c, index) ∈ columns.zipIdx := List.mem_zipIdx_iff_getElem?.mpr place
  have found : (row columns data).cells.get? c.name = some ((data[index]?).bind Datum.text?) := by
    rw [Dict.get?_eq_some_iff, entries_row distinct]
    exact List.mem_map.mpr ⟨(c, index), there, rfl⟩
  rw [Row.get?, found, Option.join_some]

/-! ### Fields -/

/-- A row of a table carries a row of data, as far as the fields of records go. -/
structure Carries (columns : List ColumnInfo) (data : List Datum) (row : Row) : Prop where
  /-- The row has the columns, and no other. -/
  keys : row.cells.keys = columns.map ColumnInfo.name
  /-- A number is bound as it is by fields of the types that hold it, and refused by all others. -/
  number : ∀ {index : Nat} {c : ColumnInfo} {d : Datum} {n : Int}, columns[index]? = some c → data[index]? = some d →
    d.integer? = some n → ∀ {slot : Slot} {t : IntType}, slot.Reads (.int t) c.name → ∀ pattern content,
      slot.bind row pattern content = if t.holds n then .ok (.int t n) else .error (Slot.outside slot.spec t n)
  /-- Nothing, or data that are missing, is bound as by a row without the column, whatever the field. -/
  absent : ∀ {index : Nat} {c : ColumnInfo}, columns[index]? = some c → (data[index]?).getD .null = .null →
    ∀ {slot : Slot}, slot.spec.column = c.name → ∀ pattern content,
      slot.bind row pattern content = slot.bind .empty pattern content
  /-- A text is bound as it is. -/
  text : ∀ {index : Nat} {c : ColumnInfo} {bytes : List UInt8} {s : String}, columns[index]? = some c →
    data[index]? = some (.bytes bytes) → Text.ofUtf8? bytes = some s → bytes ≠ [] →
      ∀ {slot : Slot}, slot.Reads .text c.name → ∀ pattern content, slot.bind row pattern content = .ok (.text s)

theorem carries_row (distinct : (columns.map ColumnInfo.name).Nodup) (data : List Datum) :
    Carries columns data (row columns data) where
  keys := by rw [Dict.keys, entries_row distinct, map_fst_cells]
  number := by
    intro index c d n place datum number slot t reads pattern content
    have given : (row columns data).get? c.name = some (String.ofList (intText n)) := by
      rw [get?_row distinct place, datum, Option.bind_some, Datum.text?_of_integer? number]
    exact reads.bind_intText given
  absent := by
    intro index c place empty slot column pattern content
    have given : (row columns data).get? c.name = none := by
      rw [get?_row distinct place]
      cases datum : data[index]? with
      | none => rfl
      | some d =>
        rw [datum, Option.getD_some] at empty
        rw [Option.bind_some, empty]
        rfl
    exact Slot.bind_congr fun _ => by rw [column, given]; rfl
  text := by
    intro index c bytes s place datum encoded nonempty slot reads pattern content
    obtain rfl := Text.ofUtf8?_eq_some_iff.mp encoded
    have given : (row columns data).get? c.name = some s := by
      rw [get?_row distinct place, datum, Option.bind_some, Datum.text?_utf8]
    refine reads.bind_text given ?_
    rintro rfl
    exact nonempty rfl

/-- What a server sends reaches the fields of records unchanged, row by row: each row of the table carries the row
    of data at its place, which may be shorter than the columns are many. -/
theorem rows_carried (distinct : (columns.map ColumnInfo.name).Nodup) (rows : List (List Datum)) :
    (table columns rows).columns.map Column.name = columns.map ColumnInfo.name ∧
      List.Forall₂ (Carries columns) rows (table columns rows).rows := by
  refine ⟨?_, ?_⟩
  · rw [table, List.map_map]
    rfl
  · rw [table, List.forall₂_map_right_iff]
    exact List.forall₂_same.mpr fun data _ => carries_row distinct data

/-- Numbers at the ends of their ranges and beyond, a name with a letter of two bytes, and a row that ends early. -/
theorem members_carried :
    let columns : List ColumnInfo := [⟨"id", 8, 32⟩, ⟨"name", 253, 0⟩, ⟨"age", 1, 0⟩]
    let full : List Datum := [.uint 18446744073709551615, .bytes [0x5A, 0x6F, 0xC3, 0xAB], .int (-1)]
    let short : List Datum := [.int 128]
    let id := Slot.ofSpec (.ofName "id" (.scalar (.int .u64)))
    let small := Slot.ofSpec ((FieldSpec.ofName "small" (.scalar (.int .i8))).withColumn "id")
    let name := Slot.ofSpec (.ofName "name" (.scalar .text))
    let age := Slot.ofSpec (.ofName "age" (.scalar (.int .u8)))
    ∃ first second, (table columns [full, short]).rows = [first, second] ∧
      (first.cells.keys = ["id", "name", "age"] ∧ second.cells.keys = ["id", "name", "age"]) ∧
      id.bind first defaultPattern .absent = .ok (.int .u64 18446744073709551615) ∧
      name.bind first defaultPattern .absent = .ok (.text "Zoë") ∧
      age.bind first defaultPattern .absent = .error (.parse "age" "-1" "u8") ∧
      small.bind second defaultPattern .absent = .error (.overflow "small" "128" "i8") ∧
      age.bind second defaultPattern (.int .u8 7) = .ok (.int .u8 7) := by
  intro columns full short id small name age
  obtain ⟨-, carried⟩ := @rows_carried columns (by decide) [full, short]
  obtain ⟨first, rest, ofFull, more, rows⟩ := List.forall₂_cons_left_iff.mp carried
  obtain ⟨second, rest, ofShort, none, rfl⟩ := List.forall₂_cons_left_iff.mp more
  obtain rfl := List.forall₂_nil_left_iff.mp none
  have atId : columns[0]? = some ⟨"id", 8, 32⟩ := rfl
  have atName : columns[1]? = some ⟨"name", 253, 0⟩ := rfl
  have atAge : columns[2]? = some ⟨"age", 1, 0⟩ := rfl
  have idReads : id.Reads (.int .u64) "id" := Slot.reads_ofSpec rfl rfl
  have smallReads : small.Reads (.int .i8) "id" := Slot.reads_ofSpec rfl rfl
  have nameReads : name.Reads .text "name" := Slot.reads_ofSpec rfl rfl
  have ageReads : age.Reads (.int .u8) "age" := Slot.reads_ofSpec rfl rfl
  have encoded : Text.ofUtf8? [0x5A, 0x6F, 0xC3, 0xAB] = some "Zoë" := by decide +kernel
  refine ⟨first, second, rows, ⟨ofFull.keys, ofShort.keys⟩, ?_, ?_, ?_, ?_, ?_⟩
  · exact ofFull.number atId rfl rfl idReads _ _
  · exact ofFull.text atName rfl encoded (by decide) nameReads _ _
  · exact ofFull.number atAge rfl rfl ageReads _ _
  · exact ofShort.number atId rfl rfl smallReads _ _
  · exact ofShort.absent atAge rfl ageReads.column _ _

end ResultSet

end Mysql
end StoreAccess
