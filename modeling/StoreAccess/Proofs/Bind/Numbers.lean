import StoreAccess.Proofs.Bind.Texts

/-! Numbers in maps and in records. A map reads a column by the family of its declared type, a field by its own
    type. Of the same column they make the same number, and the same error up to what it is about. -/

namespace StoreAccess

namespace BindError

/-- The same error about another column or field. -/
def about (target : String) : BindError → BindError
  | parse _ value expected => parse target value expected
  | overflow _ value kind => overflow target value kind
  | required _ absent => required target absent
  | unsupported _ kind => unsupported target kind

@[simp] theorem target_about (target : String) (e : BindError) : (e.about target).target = target := by
  cases e <;> rfl

@[simp] theorem about_about (target target' : String) (e : BindError) :
    (e.about target').about target = e.about target := by
  cases e <;> rfl

end BindError

namespace FieldValue

variable (target raw : String)

theorem readInt_about (t : IntType) : readInt t target raw = (readInt t "" raw).mapError (.about target) := by
  rw [readInt_eq, readInt_eq]
  cases IntLiteral.readNarrow t raw.toList with
  | ok n => rfl
  | error fault => cases fault <;> rfl

theorem readFloat_about (format : FloatFormat) (kind : String) :
    readFloat format kind target raw = (readFloat format kind "" raw).mapError (.about target) := by
  unfold readFloat
  cases Double.read? raw.toList with
  | none => rfl
  | some x =>
    by_cases tooLarge : (x.isInfinite && !namesInfinity raw.toList) = true
    · simp only [tooLarge, ↓reduceIte]
      rfl
    · by_cases tooWide : (x.isFinite && !x.fitsIn format) = true
      · simp only [tooLarge, tooWide, Bool.false_eq_true, ↓reduceIte]
        rfl
      · simp only [tooLarge, tooWide, Bool.false_eq_true, ↓reduceIte]
        rfl

end FieldValue

/-- What a map and a field make of one column: both nothing, or both the same number, or both the same error, which
    is about the column for the map and about the field for the record. -/
structure SameNumber {α : Type} (value : α → Value) (cell : α → Cell) (column field : String)
    (decoded : Except BindFault Value) (bound : Except BindError Cell) : Prop where
  null_iff : decoded = .ok .null ↔ bound = .ok .absent
  number_iff : ∀ n, decoded = .ok (value n) ↔ bound = .ok (cell n)
  fails_iff : (∃ fault, decoded = .error fault) ↔ ∃ e, bound = .error e
  same_error : ∀ fault e, decoded = .error fault → bound = .error e →
    e.target = field ∧ fault = .refused (e.about column)
  /-- There is no other value. -/
  value_cases : ∀ v, decoded = .ok v → v = .null ∨ ∃ n, v = value n

namespace SameNumber

variable {α : Type} {value : α → Value} {cell : α → Cell} {column field : String}

theorem of_null (values : ∀ n, value n ≠ .null) (cells : ∀ n, cell n ≠ .absent) :
    SameNumber value cell column field (.ok .null) (.ok .absent) where
  null_iff := iff_of_true rfl rfl
  number_iff n := iff_of_false (fun same => values n (Except.ok.inj same).symm)
    fun same => cells n (Except.ok.inj same).symm
  fails_iff := iff_of_false nofun nofun
  same_error := nofun
  value_cases _ same := Or.inl (Except.ok.inj same).symm

theorem of_read (values : ∀ n, value n ≠ .null) (cells : ∀ n, cell n ≠ .absent)
    (injective : ∀ n m, value n = value m ↔ cell n = cell m) (read : Except BindError α) :
    SameNumber value cell column field (((read.mapError (.about column)).map value).mapError .refused)
      ((read.mapError (.about field)).map cell) := by
  cases read with
  | ok n =>
    constructor
    · exact iff_of_false (fun same => values n (Except.ok.inj same)) fun same => cells n (Except.ok.inj same)
    · intro m
      show (Except.ok (value n) : Except BindFault Value) = _ ↔ (Except.ok (cell n) : Except BindError Cell) = _
      rw [Except.ok.injEq, Except.ok.injEq]
      exact injective n m
    · exact iff_of_false nofun nofun
    · nofun
    · exact fun v same => Or.inr ⟨n, (Except.ok.inj same).symm⟩
  | error e =>
    constructor
    · exact iff_of_false nofun nofun
    · exact fun _ => iff_of_false nofun nofun
    · exact iff_of_true ⟨_, rfl⟩ ⟨_, rfl⟩
    · intro fault e' decoded bound
      cases decoded
      cases bound
      exact ⟨BindError.target_about field e, congrArg _ (BindError.about_about column field e).symm⟩
    · nofun

end SameNumber

/-! ### Columns and fields -/

/-- A field that reads a column, may be absent, and has no default. -/
def FieldSpec.ofColumn (name : String) (s : Scalar) (column : Column) : FieldSpec :=
  ((FieldSpec.ofName name (.scalar s)).withColumn column.name).orAbsent

section
variable {column : Column} {name : String} {row : Row} {pattern : String} {content : Cell}

theorem Slot.bind_ofColumn_empty (s : Scalar) (empty : (row.get? column.name).getD "" = "") :
    (ofSpec (.ofColumn name s column)).bind row pattern content = .ok .absent := by
  have resolved : resolve (.ofColumn name s column) row = none := by
    show (((row.get? column.name).filter (· ≠ "")).or none).filter (· ≠ "") = none
    cases given : row.get? column.name with
    | none => rfl
    | some raw =>
      rw [given] at empty
      cases empty
      rfl
  have handed : handed (.ofColumn name s column) row pattern = .ok (some .null) := by
    rw [Slot.handed, resolved]
    rfl
  rw [bind, show (ofSpec (.ofColumn name s column)).spec = .ofColumn name s column from rfl, handed]
  rfl

theorem Value.decode_empty (number : column.family = .integer ∨ column.family = .float)
    (empty : (row.get? column.name).getD "" = "") : decode column (row.get? column.name) pattern = .ok .null := by
  cases given : row.get? column.name with
  | none => rfl
  | some raw =>
    rw [given] at empty
    cases empty
    rcases number with integer | float
    · simp [decode, integer]
    · simp [decode, float]

theorem exists_text {text : Option String} (nonempty : text.getD "" ≠ "") : ∃ raw, text = some raw ∧ raw ≠ "" := by
  cases text with
  | none => exact absurd rfl nonempty
  | some raw => exact ⟨raw, rfl, nonempty⟩

theorem Slot.bind_ofColumn {raw : String} (s : Scalar) (given : row.get? column.name = some raw) (nonempty : raw ≠ "") :
    (ofSpec (.ofColumn name s column)).bind row pattern content =
      (FieldValue.read s name raw pattern).bind fun v => s.convertOptional true v name :=
  ofSpec_bind_of_text rfl rfl given nonempty

theorem Slot.bind_ofColumn_int {raw : String} (given : row.get? column.name = some raw) (nonempty : raw ≠ "") :
    (ofSpec (.ofColumn name (.int .i64) column)).bind row pattern content =
      (FieldValue.readInt .i64 name raw).map (Cell.int .i64) :=
  (reads_ofSpec rfl rfl).bind_int given nonempty

theorem Slot.bind_ofColumn_double {raw : String} (given : row.get? column.name = some raw) (nonempty : raw ≠ "") :
    (ofSpec (.ofColumn name .double column)).bind row pattern content =
      (FieldValue.readFloat .double "f64" name raw).map Cell.double := by
  rw [bind_ofColumn _ given nonempty, FieldValue.read]
  cases FieldValue.readFloat .double "f64" name raw with
  | error e => rfl
  | ok x => exact Scalar.convertOptional_of_ne_null name (by simp)

/-- Under a column whose declared type is one of whole numbers a map finds what a field for them of 64 bits with a
    sign is bound to, and under one whose type has fractions what a field for floating-point numbers of 64 bits is,
    whatever the row gives the column. -/
theorem map_and_field_same_number (column : Column) (name : String) (row : Row) (pattern : String) (content : Cell) :
    (column.family = .integer → SameNumber Value.int (Cell.int .i64) column.name name
      (Value.decode column (row.get? column.name) pattern)
      ((Slot.ofSpec (.ofColumn name (.int .i64) column)).bind row pattern content)) ∧
    (column.family = .float → SameNumber Value.float Cell.double column.name name
      (Value.decode column (row.get? column.name) pattern)
      ((Slot.ofSpec (.ofColumn name .double column)).bind row pattern content)) := by
  refine ⟨fun integer => ?_, fun float => ?_⟩
  · by_cases empty : (row.get? column.name).getD "" = ""
    · rw [Value.decode_empty (Or.inl integer) empty, Slot.bind_ofColumn_empty _ empty]
      exact SameNumber.of_null (by simp) (by simp)
    · obtain ⟨raw, given, nonempty⟩ := exists_text empty
      have decoded : Value.decode column (some raw) pattern =
          ((FieldValue.readInt .i64 column.name raw).map Value.int).mapError .refused := by
        simp only [Value.decode, integer, nonempty, ↓reduceIte]
      rw [Slot.bind_ofColumn_int given nonempty, given, decoded, FieldValue.readInt_about column.name,
        FieldValue.readInt_about name]
      exact SameNumber.of_read (by simp) (by simp) (by simp) _
  · by_cases empty : (row.get? column.name).getD "" = ""
    · rw [Value.decode_empty (Or.inr float) empty, Slot.bind_ofColumn_empty _ empty]
      exact SameNumber.of_null (by simp) (by simp)
    · obtain ⟨raw, given, nonempty⟩ := exists_text empty
      have decoded : Value.decode column (some raw) pattern =
          ((FieldValue.readFloat .double "f64" column.name raw).map Value.float).mapError .refused := by
        simp only [Value.decode, float, nonempty, ↓reduceIte]
      rw [Slot.bind_ofColumn_double given nonempty, given, decoded, FieldValue.readFloat_about column.name,
        FieldValue.readFloat_about name]
      exact SameNumber.of_read (by simp) (by simp) (by simp) _

/-- The first number that 64 bits with a sign do not hold is refused by both in the same way. -/
theorem large_number_refused_alike :
    let count := Column.mk "n" "BIGINT(20)"
    let row := Row.ofList [("n", some "9223372036854775808")]
    let decoded := Value.decode count (row.get? "n") defaultPattern
    let bound := (Slot.ofSpec (.ofColumn "count" (.int .i64) count)).bind row defaultPattern .absent
    decoded = .error (.refused (.overflow "n" "9223372036854775808" "i64")) ∧
      bound = .error (.overflow "count" "9223372036854775808" "i64") ∧
      SameNumber Value.int (Cell.int .i64) "n" "count" decoded bound := by
  intro count row decoded bound
  have integer : count.family = .integer := by decide
  exact ⟨by decide +kernel, by decide +kernel,
    (map_and_field_same_number count "count" row defaultPattern .absent).1 integer⟩

end

end StoreAccess
