import StoreAccess.Proofs.Bind.Integers
import Mathlib.Data.List.Nodup

/-! Cells without a text. A column that a row does not carry, one without a value and one with the empty text are the
    same to a record, but for the word of it in the error of a field that must not be empty. What stands in for such a
    cell is as good as a text in it. -/

namespace StoreAccess

variable {row row' : Row} {pattern : String}

/-- The text under a column, if there is one that is not empty. -/
def Row.text? (row : Row) (column : String) : Option String :=
  (row.get? column).filter (· ≠ "")

/-- The error without word of whether the column was there. -/
def BindError.plain : BindError → BindError
  | required field _ => required field false
  | e => e

/-! ### One field -/

namespace Slot

variable {f : FieldSpec} {slot : Slot} {content : Cell}

theorem resolve_eq (f : FieldSpec) (row : Row) :
    resolve f row = ((row.text? f.column).or f.default).filter (· ≠ "") := rfl

theorem handed_alike (same : row.text? f.column = row'.text? f.column) :
    (handed f row pattern).mapError BindError.plain = (handed f row' pattern).mapError BindError.plain := by
  have resolved : resolve f row = resolve f row' := by rw [resolve_eq, resolve_eq, same]
  unfold handed
  rw [resolved]
  split
  · rfl
  · split
    · rfl
    · split
      · rfl
      · rfl

theorem bind_alike (same : row.text? slot.spec.column = row'.text? slot.spec.column) :
    (slot.bind row pattern content).mapError BindError.plain =
      (slot.bind row' pattern content).mapError BindError.plain := by
  rw [bind, bind, Except.mapError_bind, Except.mapError_bind, handed_alike same]

theorem readFloat_ne_required {format : FloatFormat} {kind target raw field : String} {absent : Bool} :
    FieldValue.readFloat format kind target raw ≠ .error (.required field absent) := by
  rw [FieldValue.readFloat]
  cases Double.read? raw.toList with
  | none => simp
  | some x =>
    dsimp only
    split
    · simp
    · split <;> simp

/-- A text is not refused for want of one. -/
theorem coerce_ne_required {raw field : String} {absent : Bool} :
    FieldValue.coerce f raw pattern ≠ .error (.required field absent) := by
  intro fails
  rw [FieldValue.coerce] at fails
  cases kind : f.kind with
  | unsupported name =>
    rw [kind] at fails
    cases fails
  | scalar s =>
    rw [kind] at fails
    cases s with
    | text | bool => cases fails
    | int t =>
      rcases (FieldValue.refusal_of_readInt (Except.map_eq_error_iff.mp fails)).either with refused | refused
      · cases refused
      · cases refused
    | single | double => exact readFloat_ne_required (Except.map_eq_error_iff.mp fails)
    | naiveTime | utcTime =>
      simp only [FieldValue.read] at fails
      cases moment : FieldValue.readMoment? pattern raw with
      | none =>
        rw [moment] at fails
        cases fails
      | some m =>
        rw [moment] at fails
        cases fails

theorem convert_ne_required {s : Scalar} {v : FieldValue} {target field : String} {absent : Bool} :
    s.convert v target ≠ .error (.required field absent) := by
  have number (t : IntType) (n : Int) : Scalar.convertInt t v n target ≠ .error (.required field absent) := by
    rw [Scalar.convertInt]
    split <;> simp
  cases s with
  | text | bool | double | naiveTime | utcTime => cases v <;> simp [Scalar.convert, FieldValue.mismatch]
  | int t =>
    cases v with
    | int n => exact number t n
    | uint n => exact number t n
    | _ => simp [Scalar.convert, FieldValue.mismatch]
  | single =>
    cases v with
    | float x =>
      rw [Scalar.convert]
      split <;> simp
    | _ => simp [Scalar.convert, FieldValue.mismatch]

theorem apply_ne_required {a : Assignment} {v : FieldValue} {field : String} {absent : Bool} :
    a.apply content v ≠ .error (.required field absent) := by
  cases a with
  | ignore => simp [Assignment.apply]
  | reject name kind => simp [Assignment.apply]
  | convert s optional name =>
    simp only [Assignment.apply, Scalar.convertOptional]
    split
    · simp
    · exact convert_ne_required

/-- A field fails for want of a text only in its own name, and says whether its own cell has none. -/
theorem required_of_bind {field : String} {absent : Bool}
    (fails : slot.bind row pattern content = .error (.required field absent)) :
    slot.spec.name = field ∧ (row.get? slot.spec.column).isNone = absent := by
  unfold bind at fails
  cases given : handed slot.spec row pattern with
  | ok v? =>
    rw [given] at fails
    cases v? with
    | none => cases fails
    | some v => exact absurd fails apply_ne_required
  | error e =>
    rw [given] at fails
    cases fails
    cases unread_of_handed given with
    | coerced text fails => exact absurd fails coerce_ne_required
    | required empty needed => exact ⟨rfl, rfl⟩

end Slot

/-! ### Stand-ins -/

/-- What stands in for a cell without a text: the default of the field that reads it, if that is not empty. -/
def FieldSpec.standIn? (f : FieldSpec) (row : Row) : Option String :=
  if f.skip = false ∧ row.text? f.column = none then f.default.filter (· ≠ "") else none

theorem FieldSpec.standIn?_eq_some_iff {f : FieldSpec} {text : String} :
    f.standIn? row = some text ↔
      f.skip = false ∧ row.text? f.column = none ∧ f.default = some text ∧ text ≠ "" := by
  rw [standIn?]
  split
  · rename_i empty
    simp [empty, Option.filter_eq_some_iff]
  · rename_i given
    exact iff_of_false (by simp) fun ⟨bound, empty, _⟩ => given ⟨bound, empty⟩

namespace Schema

def standIns (s : Schema) (row : Row) : List (String × Option String) :=
  s.fields.filterMap fun f => (f.standIn? row).map fun text => (f.column, some text)

/-- The row with what stands in for its cells in their places. -/
def filled (s : Schema) (row : Row) : Row :=
  (s.standIns row).foldl (fun row cell => row.set cell.1 cell.2) row

variable {s : Schema} {f : FieldSpec}

theorem get?_filled (s : Schema) (row : Row) (column : String) :
    (s.filled row).get? column =
      ((((s.standIns row).reverse.lookup column).or (row.cells.get? column))).join := by
  have cells (pairs : List (String × Option String)) (row : Row) :
      (pairs.foldl (fun row cell => row.set cell.1 cell.2) row).cells =
        pairs.foldl (fun d p => d.insert p.1 p.2) row.cells := by
    induction pairs generalizing row with
    | nil => rfl
    | cons p pairs ih => exact ih (row.set p.1 p.2)
  rw [Row.get?, filled, cells, Dict.get?_foldl_insert]

/-- If no two bound fields read one column, a cell is replaced only by the stand-in of the field that reads it. -/
theorem lookup_standIns (distinct : s.columns.Nodup) (there : f ∈ s.fields) (bound : f.skip = false) :
    (s.standIns row).reverse.lookup f.column = (f.standIn? row).map some := by
  -- A cell that is put under the column of the field is put there by the field.
  have own (value : Option String) (put : (f.column, value) ∈ (s.standIns row).reverse) :
      (f.standIn? row).map some = some value := by
    obtain ⟨f', there', given⟩ := List.mem_filterMap.mp (List.mem_reverse.mp put)
    obtain ⟨text, standIn, same⟩ := Option.map_eq_some_iff.mp given
    obtain ⟨column, rfl⟩ := Prod.mk.inj same
    have bound' : f'.skip = false := (FieldSpec.standIn?_eq_some_iff.mp standIn).1
    have among {g : FieldSpec} (there : g ∈ s.fields) (bound : g.skip = false) : g ∈ s.fields.filter fun g => !g.skip :=
      List.mem_filter.mpr ⟨there, by rw [bound]; rfl⟩
    obtain rfl := List.inj_on_of_nodup_map distinct (among there' bound') (among there bound) column
    rw [standIn]
    rfl
  cases found : (s.standIns row).reverse.lookup f.column with
  | some value =>
    obtain ⟨before, after, split, -⟩ := List.lookup_eq_some_iff.mp found
    exact (own value (split ▸ List.mem_append_right before List.mem_cons_self)).symm
  | none =>
    cases standIn : f.standIn? row with
    | none => rfl
    | some text =>
      have put : (f.column, some text) ∈ (s.standIns row).reverse :=
        List.mem_reverse.mpr (List.mem_filterMap.mpr ⟨f, there, by rw [standIn]; rfl⟩)
      simpa using List.lookup_eq_none_iff.mp found _ put

end Schema

/-! ### Records -/

namespace RecordType

/-- Rows that come to the same for each field, up to what is not told apart in errors, come to the same for all. -/
theorem bindSlots_alike {ε : Type} {view : BindError → ε} {slots : List Slot} {cells : List Cell}
    (alike : ∀ slot ∈ slots, ∀ cell,
      (slot.bind row pattern cell).mapError view = (slot.bind row' pattern cell).mapError view) :
    (bindSlots row pattern slots cells).1 = (bindSlots row' pattern slots cells).1 ∧
      (bindSlots row pattern slots cells).2.mapError view = (bindSlots row' pattern slots cells).2.mapError view := by
  induction slots generalizing cells with
  | nil => exact ⟨rfl, rfl⟩
  | cons slot slots ih =>
    cases cells with
    | nil => exact ⟨rfl, rfl⟩
    | cons cell cells =>
      obtain ⟨contents, outcomes⟩ := @ih cells fun slot there => alike slot (List.mem_cons_of_mem _ there)
      have own := alike slot List.mem_cons_self cell
      cases bound : slot.bind row pattern cell with
      | error e =>
        cases bound' : slot.bind row' pattern cell with
        | ok cell' =>
          rw [bound, bound'] at own
          cases own
        | error e' =>
          rw [bound, bound'] at own
          simp only [bindSlots, bound, bound']
          exact ⟨trivial, congrArg Except.error (Except.error.inj own)⟩
      | ok cell' =>
        cases bound' : slot.bind row' pattern cell with
        | error e' =>
          rw [bound, bound'] at own
          cases own
        | ok cell'' =>
          rw [bound, bound'] at own
          cases own
          simp only [bindSlots, bound, bound']
          exact ⟨congrArg _ contents, outcomes⟩

variable {r : RecordType} {content : List Cell}

/-- The record fails at a field: it is the first that is not bound. -/
structure FailsAt (r : RecordType) (row : Row) (pattern : String) (content : List Cell) (index : Nat) (slot : Slot)
    (e : BindError) : Prop where
  place : r.slots[index]? = some slot
  fails : r.bindField row pattern content index = .error e
  first : ∀ j < index, ∃ after, r.bindField row pattern content j = .ok after

theorem exists_failsAt (fits : content.length = r.slots.length) {e : BindError}
    (failed : (r.bindRow row pattern content).2 = .error e) :
    ∃ index slot cell, r.FailsAt row pattern content index slot e ∧ slot.bind row pattern cell = .error e := by
  obtain ⟨n, before, -, ⟨-, done⟩ | ⟨slot, cell, e', place, held, fails, outcome⟩⟩ := bindSlots_stops row pattern fits
  · rw [bindRow, done] at failed
    cases failed
  · rw [bindRow, outcome] at failed
    cases failed
    refine ⟨n, slot, cell, ⟨place, ?_, fun j below => ?_⟩, fails⟩
    · rw [bindField_eq place held, fails]
      rfl
    · obtain ⟨slot', cell', bound, place', held', own, -⟩ := before j below
      exact ⟨_, by rw [bindField_eq place' held', own]; rfl⟩

theorem handed_filled {f : FieldSpec} {s : Schema} (distinct : s.columns.Nodup) (there : f ∈ s.fields) :
    Slot.handed f (s.filled row) pattern = Slot.handed f row pattern := by
  cases skip : f.skip with
  | true => rw [Slot.handed_of_skip skip, Slot.handed_of_skip skip]
  | false =>
    have lookup : (s.standIns row).reverse.lookup f.column = (f.standIn? row).map some :=
      Schema.lookup_standIns distinct there skip
    have cell := s.get?_filled row f.column
    rw [lookup] at cell
    cases standIn : f.standIn? row with
    | none =>
      rw [standIn] at cell
      exact Slot.handed_congr fun _ => cell
    | some text =>
      rw [standIn] at cell
      -- The field reads its default before, and the same text from its cell after.
      obtain ⟨-, empty, default, nonempty⟩ := FieldSpec.standIn?_eq_some_iff.mp standIn
      have resolved : Slot.resolve f row = some text := by
        rw [Slot.resolve_eq, empty, default]
        simp [nonempty]
      rw [Slot.handed_of_text skip cell nonempty, Slot.handed_of_resolve skip resolved]

/-- Two rows that have the same texts, but for empty ones, come to the same record and the same outcome, except for
    whether an error says that a cell is absent: it says so iff the cell of the field that fails is. And where no two
    bound fields read one column, a row comes to the same as it does with the defaults of fields in the places of their
    cells without a text. -/
theorem bindRow_texts (r : RecordType) (pattern : String) (content : List Cell) :
    (∀ row row' : Row, (∀ column, row.text? column = row'.text? column) →
      (r.bindRow row pattern content).1 = (r.bindRow row' pattern content).1 ∧
        (r.bindRow row pattern content).2.mapError BindError.plain =
          (r.bindRow row' pattern content).2.mapError BindError.plain) ∧
    (content.length = r.slots.length → ∀ (row : Row) (field : String) (absent : Bool),
      (r.bindRow row pattern content).2 = .error (.required field absent) →
        ∃ index slot, r.FailsAt row pattern content index slot (.required field absent) ∧ slot.spec.name = field ∧
          (absent = true ↔ row.get? slot.spec.column = none)) ∧
    (r.schema.columns.Nodup → ∀ row : Row,
      r.bindRow (r.schema.filled row) pattern content = r.bindRow row pattern content) := by
  refine ⟨fun row row' same => bindSlots_alike fun slot _ cell => Slot.bind_alike (same slot.spec.column),
    fun fits row field absent failed => ?_, fun distinct row => bindSlots_congr fun slot there cell => ?_⟩
  · obtain ⟨index, slot, cell, failsAt, fails⟩ := exists_failsAt fits failed
    obtain ⟨name, own⟩ := Slot.required_of_bind fails
    refine ⟨index, slot, failsAt, name, ?_⟩
    rw [← own, Option.isNone_iff_eq_none]
  · rw [Slot.bind, Slot.bind, handed_filled distinct (List.mem_map_of_mem there)]

/-- An account whose address is absent in one row and empty in the other, and whose plan has a default. -/
theorem account_texts :
    let account : RecordType := ⟨"Account", [Slot.ofSpec ((FieldSpec.ofName "plan" (.scalar .text)).withDefault "free"),
      Slot.ofSpec (FieldSpec.ofName "email" (.scalar .text)).requiring]⟩
    let row := Row.ofList [("plan", none)]
    let row' := Row.ofList [("email", some "")]
    let bound (row : Row) := account.bindRow row defaultPattern account.initial
    (bound row).1 = (bound row').1 ∧ (bound row).2 = .error (.required "email" true) ∧
      (bound row').2 = .error (.required "email" false) ∧
      (∃ index slot, account.FailsAt row' defaultPattern account.initial index slot (.required "email" false)) ∧
      bound (account.schema.filled row) = bound row ∧ (account.schema.filled row).get? "plan" = some "free" := by
  intro account row row' bound
  obtain ⟨alike, fails, filled⟩ := bindRow_texts account defaultPattern account.initial
  have same (column : String) : row.text? column = row'.text? column := by
    simp only [row, row', Row.text?, Row.get?, Row.ofList, Dict.ofList, List.foldl_cons, List.foldl_nil,
      Dict.get?_insert]
    split <;> split <;> rfl
  obtain ⟨index, slot, failsAt, -⟩ := fails rfl row' "email" false rfl
  exact ⟨(alike row row' same).1, rfl, rfl, ⟨index, slot, failsAt⟩, filled (by decide) row, rfl⟩

end RecordType

end StoreAccess
