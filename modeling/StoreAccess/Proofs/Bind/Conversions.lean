import StoreAccess.Proofs.Bind.Timestamps
import StoreAccess.Proofs.Declare.Records

/-! From what a text is read as to the content of a field. A text that was read by the type of its field is
    converted to this type without fail: whatever the conversion checks, reading has checked before. So the
    setter of a record refuses nothing that it is handed, and a row is refused only where a text cannot be read
    or is missing. -/

namespace StoreAccess

variable {raw pattern : String}

/-! ### Numbers -/

namespace FieldValue

/-- The error of a text that is no number of a type. -/
def numberError (kind target raw : String) : IntLiteral.Fault → BindError
  | .malformed => .parse target raw kind
  | .outOfRange => .overflow target raw kind

theorem readInt_eq (t : IntType) (target raw : String) :
    readInt t target raw = (IntLiteral.readNarrow t raw.toList).mapError (numberError t.name target raw) := by
  rw [readInt]
  cases IntLiteral.readNarrow t raw.toList with
  | ok n => rfl
  | error fault => cases fault <;> rfl

theorem holds_of_readInt {t : IntType} {target : String} {n : Int} (read : readInt t target raw = .ok n) :
    t.holds n = true := by
  rw [readInt_eq, IntLiteral.readNarrow] at read
  cases literal : IntLiteral.read t.widest raw.toList with
  | error fault =>
    rw [literal] at read
    cases read
  | ok m =>
    rw [literal] at read
    change (if t.holds m then Except.ok m else _).mapError _ = _ at read
    split at read
    · rename_i holds
      cases read
      exact holds
    · cases read

/-- A number that was read for a format lies within it, or is none of the finite ones. -/
theorem fits_of_readFloat {format : FloatFormat} {kind target : String} {x : Double}
    (read : readFloat format kind target raw = .ok x) : (!x.isFinite || x.fitsIn format) = true := by
  rw [readFloat] at read
  cases literal : Double.read? raw.toList with
  | none =>
    rw [literal] at read
    cases read
  | some y =>
    simp only [literal] at read
    split at read
    · cases read
    · split at read
      · cases read
      · rename_i fits
        cases read
        simpa [Bool.or_eq_true, Bool.and_eq_true, or_iff_not_imp_left] using fits

end FieldValue

namespace Scalar

theorem convert_number {t : IntType} {n : Int} (holds : t.holds n = true) (target : String) :
    (int t).convert (if t.isSigned then .int n else .uint n.toNat) target = .ok (.int t n) := by
  cases signed : t.isSigned with
  | true => exact if_pos holds
  | false =>
    -- Numbers of a type without a sign are those from zero on.
    have bounds : t.lowest ≤ n ∧ n ≤ t.greatest := by simpa [IntType.holds] using holds
    have natural : (n.toNat : Int) = n := by
      rw [IntType.lowest, signed] at bounds
      exact Int.toNat_of_nonneg bounds.1
    show convertInt t (.uint n.toNat) n.toNat target = _
    rw [natural]
    exact if_pos holds

/-! ### All types -/

/-- What a text is read as by a type, the type takes. -/
theorem convert_of_read {s : Scalar} {target : String} {v : FieldValue}
    (read : FieldValue.read s target raw pattern = .ok v) : ∃ cell, ∀ field, s.convert v field = .ok cell := by
  cases s with
  | text =>
    cases read
    exact ⟨.text raw, fun _ => rfl⟩
  | bool =>
    cases read
    exact ⟨.bool _, fun _ => rfl⟩
  | int t =>
    obtain ⟨n, number, rfl⟩ := exists_of_map_eq_ok read
    exact ⟨.int t n, convert_number (FieldValue.holds_of_readInt number)⟩
  | single =>
    obtain ⟨x, number, rfl⟩ := exists_of_map_eq_ok read
    exact ⟨.single (x.convert .single), fun _ => if_pos (FieldValue.fits_of_readFloat number)⟩
  | double =>
    obtain ⟨x, -, rfl⟩ := exists_of_map_eq_ok read
    exact ⟨.double x, fun _ => rfl⟩
  | naiveTime =>
    obtain ⟨m, -, rfl⟩ := exists_of_elim_eq_ok read
    exact ⟨.naiveTime m, fun _ => rfl⟩
  | utcTime =>
    obtain ⟨m, -, rfl⟩ := exists_of_elim_eq_ok read
    exact ⟨.utcTime m, fun _ => rfl⟩

/-- No text is read as the value that stands for none. -/
theorem ne_null_of_read {s : Scalar} {target : String} {v : FieldValue}
    (read : FieldValue.read s target raw pattern = .ok v) : v ≠ .null := by
  rintro rfl
  obtain ⟨cell, taken⟩ := convert_of_read read
  have refused := taken target
  cases s <;> cases refused

theorem convertOptional_of_read {s : Scalar} {target : String} {v : FieldValue} (optional : Bool)
    (read : FieldValue.read s target raw pattern = .ok v) :
    ∃ cell, ∀ field, s.convertOptional optional v field = .ok cell := by
  obtain ⟨cell, taken⟩ := convert_of_read read
  exact ⟨cell, fun field => (convertOptional_of_ne_null field (ne_null_of_read read)).trans (taken field)⟩

end Scalar

/-! ### Fields -/

section
variable {f : FieldSpec} {row : Row} {e : BindError}

namespace Slot

/-- A field fails by itself: its text is not read as its kind, or it has none and must not be empty. -/
inductive Unread (f : FieldSpec) (row : Row) (pattern : String) : BindError → Prop
  | coerced {raw : String} {e : BindError} (text : resolve f row = some raw)
      (fails : FieldValue.coerce f raw pattern = .error e) : Unread f row pattern e
  | required (empty : resolve f row = none) (needed : f.notEmpty = true) :
      Unread f row pattern (.required f.name (row.get? f.column).isNone)

theorem unread_of_handed (fails : handed f row pattern = .error e) : Unread f row pattern e := by
  unfold handed at fails
  split at fails
  · cases fails
  · cases text : resolve f row with
    | some raw =>
      simp only [text] at fails
      cases coerced : FieldValue.coerce f raw pattern with
      | error e' =>
        rw [coerced] at fails
        cases fails
        exact .coerced text coerced
      | ok v =>
        rw [coerced] at fails
        cases fails
    | none =>
      simp only [text] at fails
      split at fails
      · rename_i needed
        cases fails
        exact .required text needed
      · split at fails
        · cases fails
        · split at fails
          · cases fails
          · split at fails <;> cases fails

/-- What the setter is handed is of a kind that is bound, and of use for a field of this kind. -/
theorem accepted_of_handed {v : FieldValue} (given : handed f row pattern = .ok (some v)) :
    ∃ s, f.kind = .scalar s ∧ ∃ cell, ∀ field, s.convertOptional f.optional v field = .ok cell := by
  unfold handed at given
  split at given
  · cases given
  · cases kind : f.kind with
    | unsupported name =>
      simp only [FieldValue.coerce, kind, FieldKind.isUnsupported] at given
      split at given
      · cases given
      · split at given <;> cases given
    | scalar s =>
      refine ⟨s, rfl, ?_⟩
      simp only [FieldValue.coerce, kind, FieldKind.isUnsupported] at given
      split at given
      · obtain ⟨v', read, same⟩ := exists_of_map_eq_ok given
        cases same
        exact Scalar.convertOptional_of_read f.optional read
      · split at given
        · cases given
        · simp only [Bool.false_eq_true, ↓reduceIte] at given
          split at given
          · rename_i optional
            cases given
            exact ⟨.absent, fun field => by rw [optional]; rfl⟩
          · split at given
            · rename_i text
              cases given
              cases text
              exact ⟨.text "", fun field => Scalar.convertOptional_of_ne_null field (by simp)⟩
            · cases given

/-- A field whose setter converts to its kind fails only by itself. -/
theorem unread_of_bind {slot : Slot} {cell : Cell} (fails : slot.bind row pattern cell = .error e)
    (converts : ∀ s, slot.spec.kind = .scalar s → slot.spec.skip = false →
      ∃ field, slot.assignment = .convert s slot.spec.optional field) :
    slot.spec.skip = false ∧ Unread slot.spec row pattern e := by
  have unskipped : slot.spec.skip = false := by
    cases skip : slot.spec.skip with
    | false => rfl
    | true =>
      rw [bind_of_skip skip] at fails
      cases fails
  refine ⟨unskipped, ?_⟩
  rw [bind] at fails
  cases given : handed slot.spec row pattern with
  | error e' =>
    rw [given] at fails
    cases fails
    exact unread_of_handed given
  | ok v? =>
    rw [given] at fails
    cases v? with
    | none => cases fails
    | some v =>
      obtain ⟨s, kind, cell', accepted⟩ := accepted_of_handed given
      obtain ⟨field, assignment⟩ := converts s kind unskipped
      change slot.assignment.apply cell v = .error e at fails
      rw [assignment, Assignment.apply, accepted] at fails
      cases fails

end Slot

/-! ### Records -/

theorem RecordType.exists_of_bindSlots_error {slots : List Slot} {cells : List Cell}
    (fails : (bindSlots row pattern slots cells).2 = .error e) :
    ∃ slot ∈ slots, ∃ cell, slot.bind row pattern cell = .error e := by
  induction slots generalizing cells with
  | nil => cases cells <;> cases fails
  | cons slot slots ih =>
    cases cells with
    | nil => cases fails
    | cons cell cells =>
      cases bound : slot.bind row pattern cell with
      | error e' =>
        rw [bindSlots, bound] at fails
        cases fails
        exact ⟨slot, List.mem_cons_self, cell, bound⟩
      | ok cell' =>
        rw [bindSlots, bound] at fails
        obtain ⟨slot', there, failing⟩ := ih fails
        exact ⟨slot', List.mem_cons_of_mem _ there, failing⟩

namespace Declare

/-- The types that setters convert to, each under the name that a declaration gives it. -/
def fieldTypes : List (String × Scalar) :=
  [("String", .text), ("bool", .bool), ("f32", .single), ("f64", .double), ("NaiveDateTime", .naiveTime),
    ("DateTime", .utcTime)] ++ IntType.all.map fun t => (t.name, .int t)

/-- A type that a declaration can name and the setter converts to: whatever a text is read as for a field of this
    type, the setter takes, and so it does with no value for a field that may be absent. -/
structure Takes (name : String) (s : Scalar) : Prop where
  assignable : assignable.contains name = true
  /-- Texts are read for the type that the setter converts to. -/
  kind : FieldKind.ofTypeName name = .scalar s
  read : ∀ (f : FieldSpec) (raw pattern : String) (v : FieldValue), f.kind = .ofTypeName name →
    FieldValue.coerce f raw pattern = .ok v →
    ∀ optional, ∃ cell, ∀ field, s.convertOptional optional v field = .ok cell
  absent : ∀ field, s.convertOptional true .null field = .ok .absent

theorem fieldTypes_agree :
    ∀ x ∈ fieldTypes, assignable.contains x.1 = true ∧ FieldKind.ofTypeName x.1 = .scalar x.2 := by
  decide

theorem exists_fieldType : ∀ name ∈ assignable, ∃ x ∈ fieldTypes, x.1 = name := by
  decide

theorem takes_of_mem {name : String} {s : Scalar} (named : (name, s) ∈ fieldTypes) : Takes name s := by
  obtain ⟨supported, kind⟩ := fieldTypes_agree (name, s) named
  refine ⟨supported, kind, fun f raw pattern v ofName coerced optional => ?_, fun _ => rfl⟩
  rw [FieldValue.coerce, ofName, kind] at coerced
  exact Scalar.convertOptional_of_read optional coerced

/-- The setter of a declared record converts to the kind of each field that it assigns to. -/
theorem Record.converts {s : Struct} {r : Record} (declared : s.record? = some r) (initial : FieldSpec → Cell)
    (known : ∀ d ∈ r.fields, assignable.contains d.typeName = true ∨ d.spec.kind.isUnsupported = true) {slot : Slot}
    (there : slot ∈ (r.recordType initial).slots) :
    slot.spec ∈ r.schema.fields ∧ ∀ scalar, slot.spec.kind = .scalar scalar → slot.spec.skip = false →
      ∃ field, slot.assignment = .convert scalar slot.spec.optional field := by
  obtain ⟨index, place⟩ := List.mem_iff_getElem?.mp there
  rw [slots_recordType, Option.map_eq_some_iff] at place
  obtain ⟨d, described, rfl⟩ := place
  have mem := List.mem_of_getElem? described
  refine ⟨List.mem_map_of_mem mem, fun scalar kind unskipped => ⟨d.name, ?_⟩⟩
  have arm := Struct.lookup_arms declared described
  change d.spec.skip = false at unskipped
  change d.spec.kind = .scalar scalar at kind
  have assigned : d.arm = .assign d.name := by
    rcases known d mem with supported | unsupported
    · exact if_pos supported
    · rw [kind] at unsupported
      cases unsupported
  simp only [unskipped, Bool.false_eq_true, ↓reduceIte, assigned] at arm
  simp only [assignment, arm, kind]

/-- What the binder hands to the setter of a declared record, the setter takes: the value of every text that could
    be read, no value for a field that may be absent, and the empty text. So where a row is refused, a text of it
    could not be read for its field, or a field that must not be empty has none. A field of another type than those
    that setters convert to does no harm, as long as texts are not read for it either. -/
theorem setter_takes_what_is_handed :
    (∀ name ∈ assignable, ∃ s, (name, s) ∈ fieldTypes) ∧ (∀ x ∈ fieldTypes, Takes x.1 x.2) ∧
      (∀ optional field, Scalar.text.convertOptional optional (.text "") field = .ok (.text "")) ∧
      ∀ (s : Struct) (r : Record), s.record? = some r →
        (∀ d ∈ r.fields, assignable.contains d.typeName = true ∨ d.spec.kind.isUnsupported = true) →
        ∀ (initial : FieldSpec → Cell) (columns : List Column) (row : Row) (options : BinderOptions)
          (content : List Cell) (fault : BindFault),
          ((RowTarget.record (r.recordType initial)).bindRow columns row options content).2 = .error fault →
          ∃ e, fault = .refused e ∧
            ∃ f ∈ r.schema.fields, f.skip = false ∧ Slot.Unread f row options.pattern e := by
  refine ⟨fun name supported => ?_, fun x named => takes_of_mem named, fun optional field => ?_,
    fun s r declared known initial columns row options content fault fails => ?_⟩
  · obtain ⟨⟨_, s⟩, named, rfl⟩ := exists_fieldType name supported
    exact ⟨s, named⟩
  · exact Scalar.convertOptional_of_ne_null field (by simp)
  · change Except.mapError BindFault.refused (RecordType.bindRow _ row options.pattern content).2 = _ at fails
    cases bound : (RecordType.bindRow (r.recordType initial) row options.pattern content).2 with
    | ok done =>
      rw [bound] at fails
      cases fails
    | error e =>
      rw [bound] at fails
      cases fails
      obtain ⟨slot, there, cell, failing⟩ := RecordType.exists_of_bindSlots_error bound
      obtain ⟨field, converts⟩ := Record.converts declared initial known there
      exact ⟨e, rfl, slot.spec, field, Slot.unread_of_bind failing converts⟩

/-- What a sensor reads, as it is declared: a level, a ratio that may be absent, a label, and the time. -/
def reading : Struct :=
  ⟨"Reading", .named, false, [],
    [⟨some "level", "i8", []⟩, ⟨some "ratio", "Option<f32>", []⟩, ⟨some "label", "String", []⟩,
      ⟨some "at", "DateTime<Utc>", [⟨"column", some (.text "taken_at")⟩]⟩]⟩

/-- The level is one more than a signed byte holds: it is not read, and the setter never sees it. That there is no
    text for the other fields is no error. -/
theorem reading_level_unread :
    let row := Row.ofList [("level", some "128")]
    let fault := BindError.overflow "level" "128" "i8"
    ∃ r, reading.record? = some r ∧
      ((RowTarget.record (r.recordType fun _ => .absent)).bindRow [] row .default
        [.absent, .absent, .absent, .absent]).2 = .error (.refused fault) ∧
      ∃ f ∈ r.schema.fields, f.skip = false ∧ Slot.Unread f row defaultPattern fault := by
  intro row fault
  have declared : reading.record? = some ⟨"Reading",
      [⟨"level", "i8", []⟩, ⟨"ratio", "f32", [.optional]⟩, ⟨"label", "String", []⟩,
        ⟨"at", "DateTime", [.column "taken_at"]⟩],
      [(0, .assign "level"), (1, .assign "ratio"), (2, .assign "label"), (3, .assign "at")]⟩ := rfl
  obtain ⟨-, -, -, refused⟩ := setter_takes_what_is_handed
  obtain ⟨e, same, field⟩ := refused _ _ declared (by decide) (fun _ => .absent) [] row .default
    [.absent, .absent, .absent, .absent] (.refused fault) rfl
  cases same
  exact ⟨_, declared, rfl, field⟩

end Declare

end

end StoreAccess
