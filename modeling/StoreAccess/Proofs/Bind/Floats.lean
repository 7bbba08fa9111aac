import StoreAccess.Proofs.Bind.Texts
import StoreAccess.Proofs.Data.Outcomes
import StoreAccess.Proofs.Number.BitPatterns
import StoreAccess.Proofs.Number.FloatLiterals

/-! Floating-point numbers in fields and in maps. A literal of a finite number is rounded to the 64-bit format first,
    and then to the format of its field. Where either would take it beyond the finite numbers of the format it is
    refused and the field keeps what it held: only what is spelled as infinity is stored as infinity. -/

namespace StoreAccess

open FloatLiteral (Denotes SpellsInfinity SpellsNan Writes)
open Binary (Rounds)

variable {f g : FloatFormat} {negative : Bool} {cs : List Char} {n : Nat} {e : Int} {kind target raw pattern : String}

/-- The number is beyond the finite numbers of a format. -/
inductive Binary.Exceeds (g : FloatFormat) : Binary f → Prop
  | infinite {negative : Bool} : Exceeds g (.infinite negative)
  | finite {negative : Bool} {m s : Nat} (far : g.greatest < f.magnitude m s) : Exceeds g (.finite negative m s)

namespace FieldValue

/-! ### Names of infinity -/

theorem mem_of_holdsInf (holds : holdsInf cs = true) : 'n' ∈ cs := by
  induction cs with
  | nil => cases holds
  | cons c rest ih =>
    rw [holdsInf, Bool.or_eq_true] at holds
    rcases holds with front | later
    · exact (List.isPrefixOf_iff_prefix.mp front).subset (by decide)
    · exact List.mem_cons_of_mem c (ih later)

theorem namesInfinity_of_writes (literal : Writes cs negative n e) : namesInfinity cs = false := by
  refine Bool.eq_false_iff.mpr fun holds => ?_
  obtain ⟨starts, decimal⟩ := literal
  obtain ⟨c, there, lowered⟩ := List.mem_map.mp (mem_of_holdsInf holds)
  rcases List.mem_append.mp there with inSign | inDecimal
  · rcases starts.mem_cases c inSign with rfl | rfl <;> exact absurd lowered (by decide)
  · exact decimal.lower_ne c inDecimal lowered

theorem namesInfinity_of_spelled (spelled : SpellsInfinity cs negative) : namesInfinity cs = true := by
  obtain ⟨starts, name | name⟩ := spelled <;> rw [namesInfinity, Text.lowerAscii, List.map_append, ← Text.lowerAscii,
    ← Text.lowerAscii, name] <;> cases starts <;> rfl

/-! ### Readings -/

/-- What a text comes to as a number of a format. -/
def narrowed (g : FloatFormat) (kind target raw : String) : Except BindError (Binary g) :=
  (readFloat g kind target raw).map (Binary.convert g)

theorem narrowed_of_unread (unread : FloatLiteral.read? raw.toList = none) :
    narrowed g kind target raw = .error (.parse target raw kind) := by
  rw [narrowed, readFloat, Double.read?, unread]
  rfl

theorem readFloat_of_read? {literal : FloatLiteral} (read : FloatLiteral.read? raw.toList = some literal) :
    readFloat g kind target raw =
      if (literal.value .double).isInfinite && !namesInfinity raw.toList then .error (.overflow target raw kind)
      else if (literal.value .double).isFinite && !(literal.value .double).fitsIn g then
        .error (.overflow target raw kind)
      else .ok (literal.value .double) := by
  rw [readFloat, Double.read?, read]
  rfl

theorem narrowed_of_infinity (spelled : SpellsInfinity raw.toList negative) :
    narrowed g kind target raw = .ok (.infinite negative) := by
  rw [narrowed, readFloat_of_read? (FloatLiteral.read?_eq_infinite_iff.mpr spelled), namesInfinity_of_spelled spelled]
  rfl

theorem narrowed_of_nan (spelled : SpellsNan raw.toList) : narrowed g kind target raw = .ok .nan := by
  rw [narrowed, readFloat_of_read? (FloatLiteral.read?_eq_nan_iff.mpr spelled)]
  rfl

/-- A literal of a finite number is refused if the number it is rounded to is beyond the format, and is rounded a second
    time if it is not. -/
theorem narrowed_of_writes (precise : 2 ≤ g.precision) (literal : Writes raw.toList negative n e) :
    ∃ x : Double, Rounds negative (n * 10 ^ e : ℚ) x ∧
      (x.Exceeds g → narrowed g kind target raw = .error (.overflow target raw kind)) ∧
      (¬x.Exceeds g → ∃ m s y, x = .finite negative m s ∧ Rounds negative (FloatFormat.double.magnitude m s) y ∧
        y.isFinite = true ∧ narrowed g kind target raw = .ok y) := by
  have rounds := FloatLiteral.rounds_double negative n e
  have read : readFloat g kind target raw = _ := readFloat_of_read? (FloatLiteral.read?_eq_decimal_iff.mpr literal)
  rw [namesInfinity_of_writes literal] at read
  generalize (FloatLiteral.decimal negative n e).value .double = x at *
  refine ⟨x, rounds, fun exceeds => ?_, fun within => ?_⟩
  · have refused : readFloat g kind target raw = .error (.overflow target raw kind) := by
      cases exceeds with
      | infinite => exact read
      | @finite sign m s far =>
        have wide : (Binary.finite (f := .double) sign m s).fitsIn g = false :=
          Bool.eq_false_iff.mpr fun fits => absurd (Binary.fitsIn_iff.mp fits) (not_le.mpr far)
        rw [read, wide]
        rfl
    rw [narrowed, refused]
    rfl
  · rcases rounds with ⟨near, reach, nearest⟩ | far
    · rename_i m s
      have small : FloatFormat.double.magnitude m s ≤ g.greatest := not_lt.mp fun far => within (.finite far)
      have again := @Binary.rounds_convert .double g precise negative m s
      have fits : (Binary.finite (f := .double) negative m s).fitsIn g = true := Binary.fitsIn_iff.mpr small
      refine ⟨m, s, _, rfl, again, again.isFinite (small.trans_lt g.greatest_lt_limit), ?_⟩
      rw [narrowed, read, fits]
      rfl
    · exact absurd .infinite within

theorem canonical_of_readFloat {x : Double} (read : readFloat g kind target raw = .ok x) : x.Canonical := by
  cases literal : FloatLiteral.read? raw.toList with
  | none =>
    rw [readFloat, Double.read?, literal] at read
    cases read
  | some value =>
    rw [readFloat_of_read? literal] at read
    split at read
    · cases read
    split at read <;> cases read
    cases value with
    | nan | infinite negative => trivial
    | decimal negative n e => exact (FloatLiteral.rounds_double negative n e).canonical

theorem narrowed_double : narrowed .double kind target raw = readFloat .double kind target raw := by
  cases read : readFloat .double kind target raw with
  | error e => rw [narrowed, read]; rfl
  | ok x =>
    rw [narrowed, read]
    exact congrArg Except.ok (Binary.convert_self (by decide) (canonical_of_readFloat read))

/-- A text that is taken is a literal, of a finite number or of what it names. -/
theorem narrowed_cases {y : Binary g} (precise : 2 ≤ g.precision) (taken : narrowed g kind target raw = .ok y) :
    y.Canonical ∧ (y.isFinite = true ∨ (∃ negative, SpellsInfinity raw.toList negative ∧ y = .infinite negative) ∨
      SpellsNan raw.toList ∧ y = .nan) := by
  cases read : FloatLiteral.read? raw.toList with
  | none =>
    rw [narrowed_of_unread read] at taken
    cases taken
  | some literal =>
    cases literal with
    | nan =>
      have spelled := FloatLiteral.read?_eq_nan_iff.mp read
      rw [narrowed_of_nan spelled] at taken
      cases taken
      exact ⟨trivial, Or.inr (Or.inr ⟨spelled, rfl⟩)⟩
    | infinite negative =>
      have spelled := FloatLiteral.read?_eq_infinite_iff.mp read
      rw [narrowed_of_infinity spelled] at taken
      cases taken
      exact ⟨trivial, Or.inr (Or.inl ⟨negative, spelled, rfl⟩)⟩
    | decimal negative n e =>
      obtain ⟨x, -, refused, rounded⟩ :=
        @narrowed_of_writes g negative n e kind target raw precise (FloatLiteral.read?_eq_decimal_iff.mp read)
      by_cases exceeds : x.Exceeds g
      · rw [refused exceeds] at taken
        cases taken
      · obtain ⟨m, s, y', -, rounds, finite, stored⟩ := rounded exceeds
        rw [stored] at taken
        cases taken
        exact ⟨rounds.canonical, Or.inl finite⟩

end FieldValue

/-! ### Outcomes -/

/-- What comes of a text for a field or a column of a format: a number of the format, or an error. Infinity and what is
    no number are told by their bit patterns. -/
structure FloatOutcome (g : FloatFormat) (kind target raw : String) (outcome : Except BindError (Binary g)) : Prop where
  infinite : ∀ y, outcome = .ok y → g.IsInfinite y.bits → ∃ negative, SpellsInfinity raw.toList negative
  nan : ∀ y, outcome = .ok y → g.IsNan y.bits → SpellsNan raw.toList
  /-- A finite number is rounded to 64 bits, and then to the format unless the format has no finite number so great. -/
  literal : ∀ negative q, Denotes raw.toList negative q → ∃ x : Double, (∀ x', Rounds negative q x' ↔ x' = x) ∧
    (x.Exceeds g → outcome = .error (.overflow target raw kind)) ∧
    (¬x.Exceeds g → ∃ m s y, x = .finite negative m s ∧
      (∀ y', Rounds negative (FloatFormat.double.magnitude m s) y' ↔ y' = y) ∧ y.isFinite = true ∧ outcome = .ok y)
  spelled : ∀ negative, SpellsInfinity raw.toList negative → outcome = .ok (.infinite negative)
  spelledNan : SpellsNan raw.toList → outcome = .ok .nan
  malformed : (¬∃ negative q, Denotes raw.toList negative q) → (¬∃ negative, SpellsInfinity raw.toList negative) →
    ¬SpellsNan raw.toList → outcome = .error (.parse target raw kind)

theorem FloatOutcome.of_narrowed (format : g.Interchange) :
    FloatOutcome g kind target raw (FieldValue.narrowed g kind target raw) := by
  constructor
  · intro y taken pattern
    obtain ⟨canonical, finite | ⟨negative, spelled, -⟩ | ⟨-, rfl⟩⟩ := FieldValue.narrowed_cases format.precise taken
    · obtain ⟨negative, rfl⟩ := (Binary.isInfinite_bits_iff format canonical).mp pattern
      cases finite
    · exact ⟨negative, spelled⟩
    · exact absurd pattern.2 (Binary.isNan_bits_nan format).2
  · intro y taken pattern
    obtain ⟨canonical, finite | ⟨negative, -, rfl⟩ | ⟨spelled, -⟩⟩ := FieldValue.narrowed_cases format.precise taken
    · cases (Binary.isNan_bits_iff format canonical).mp pattern
      cases finite
    · exact absurd (Binary.isInfinite_bits_infinite format negative).2 pattern.2
    · exact spelled
  · rintro negative q ⟨n, e, literal, rfl⟩
    obtain ⟨x, rounds, refused, rounded⟩ :=
      @FieldValue.narrowed_of_writes g negative n e kind target raw format.precise literal
    refine ⟨x, rounds.eq_iff (by decide), refused, fun within => ?_⟩
    obtain ⟨m, s, y, same, again, finite, stored⟩ := rounded within
    exact ⟨m, s, y, same, again.eq_iff format.precise, finite, stored⟩
  · exact fun negative spelled => FieldValue.narrowed_of_infinity spelled
  · exact FieldValue.narrowed_of_nan
  · intro notDecimal notInfinity notNan
    refine FieldValue.narrowed_of_unread (Option.eq_none_iff_forall_ne_some.mpr fun literal read => ?_)
    cases literal with
    | nan => exact notNan (FloatLiteral.read?_eq_nan_iff.mp read)
    | infinite negative => exact notInfinity ⟨negative, FloatLiteral.read?_eq_infinite_iff.mp read⟩
    | decimal negative n e => exact notDecimal ⟨negative, _, n, e, FloatLiteral.read?_eq_decimal_iff.mp read, rfl⟩

/-! ### Fields -/

/-- The types of fields for floating-point numbers, their formats, and what such a field holds. -/
inductive FloatField : Scalar → (g : FloatFormat) → (Binary g → Cell) → Prop
  | single : FloatField .single .single .single
  | double : FloatField .double .double .double

section
variable {slot : Slot} {s : Scalar} {cell : Binary g → Cell} {row : Row} {column : String} {content : Cell}

theorem FloatField.interchange (float : FloatField s g cell) : g.Interchange := by
  cases float with
  | single => exact FloatFormat.interchange_single
  | double => exact FloatFormat.interchange_double

namespace Slot

theorem Reads.bind_float (reads : slot.Reads s column) (float : FloatField s g cell)
    (text : resolve slot.spec row = some raw) :
    slot.bind row pattern content = (FieldValue.narrowed g s.name slot.spec.name raw).map cell := by
  obtain ⟨kind, unskipped, rfl, field, converts⟩ := reads
  rw [bind_of_resolve kind unskipped converts text]
  cases float with
  | single =>
    rw [FieldValue.read, FieldValue.narrowed]
    change Except.bind (Except.map FieldValue.float (FieldValue.readFloat .single "f32" slot.spec.name raw)) _ =
      Except.map Cell.single (Except.map _ (FieldValue.readFloat .single "f32" slot.spec.name raw))
    cases read : FieldValue.readFloat .single "f32" slot.spec.name raw with
    | error e => rfl
    | ok x =>
      exact (Scalar.convertOptional_of_ne_null field (by simp)).trans (if_pos (FieldValue.fits_of_readFloat read))
  | double =>
    rw [FieldValue.read, FieldValue.narrowed_double]
    change _ = Except.map Cell.double (FieldValue.readFloat .double "f64" slot.spec.name raw)
    cases FieldValue.readFloat .double "f64" slot.spec.name raw with
    | error e => rfl
    | ok x => exact Scalar.convertOptional_of_ne_null field (by simp)

end Slot

namespace RecordType

variable {r : RecordType} {index : Nat} {cells : List Cell}

/-- A field is bound to what its text comes to, or keeps what it held. -/
theorem float_bound_or_kept (float : FloatField s g cell) (place : r.slots[index]? = some slot)
    (reads : slot.Reads s column) (text : Slot.resolve slot.spec row = some raw) (fits : cells.length = r.slots.length)
    (columns : List Column) (options : BinderOptions) :
    let outcome := FieldValue.narrowed g s.name slot.spec.name raw
    let bound := (RowTarget.record r).bindRow columns row options cells
    r.bindField row options.pattern cells index = outcome.map (fun y => cells.set index (cell y)) ∧
      (∀ y, outcome = .ok y → bound.2 = .ok () → bound.1[index]? = some (cell y)) ∧
      (∀ e, outcome = .error e → (∃ fault, bound.2 = .error fault) ∧ bound.1[index]? = cells[index]?) := by
  intro outcome bound
  obtain ⟨content, held⟩ : ∃ content, cells[index]? = some content :=
    ⟨_, List.getElem?_eq_getElem (fits ▸ (List.getElem?_eq_some_iff.mp place).1)⟩
  have own : slot.bind row options.pattern content = outcome.map cell := reads.bind_float float text
  refine ⟨?_, fun y taken done => ?_, fun e refused => ?_⟩
  · rw [bindField_eq place held, own]
    cases outcome <;> rfl
  · rw [taken] at own
    exact bindSlots_of_ok fits place held own (Except.mapError_eq_ok_iff.mp done)
  · rw [refused] at own
    obtain ⟨⟨e', failed⟩, kept⟩ := bindSlots_of_error fits place held own
    exact ⟨⟨.refused e', congrArg (Except.mapError BindFault.refused) failed⟩, kept⟩

end RecordType

end

/-! ### Columns -/

section
variable {column : Column} {row : Row} {options : BinderOptions} {rest : List Column} {d : Dict Value}

theorem Value.decode_float (float : column.family = .float) (nonempty : raw ≠ "") :
    Value.decode column (some raw) pattern =
      ((FieldValue.narrowed .double "f64" column.name raw).map Value.float).mapError .refused := by
  simp only [decode, float, nonempty, ↓reduceIte, FieldValue.narrowed_double]

theorem RowTarget.bindColumns_of_decode {v : Value}
    (decoded : Value.decode column (row.get? column.name) options.pattern = .ok v) :
    bindColumns row options (column :: rest) d = bindColumns row options rest (d.insert column.name v) := by
  rw [bindColumns, decoded]

theorem RowTarget.bindColumns_of_fault {fault : BindFault}
    (refused : Value.decode column (row.get? column.name) options.pattern = .error fault) :
    bindColumns row options (column :: rest) d = (d, .error fault) := by
  rw [bindColumns, refused]

end

/-- No literal of a finite number becomes infinite. What a text comes to for a field for floating-point numbers is
    stored in it, and for a column of such in the map. Where a finite number is beyond the format this is an overflow,
    under which the field keeps what it held and the map is left as it was. -/
theorem finite_literal_never_infinite (nonempty : raw ≠ "") :
    (∀ (s : Scalar) (g : FloatFormat) (cell : Binary g → Cell) (r : RecordType) (index : Nat) (slot : Slot)
        (column : String) (row : Row) (cells : List Cell) (columns : List Column) (options : BinderOptions),
      FloatField s g cell → r.slots[index]? = some slot → slot.Reads s column →
        Slot.resolve slot.spec row = some raw → cells.length = r.slots.length →
          let bound := (RowTarget.record r).bindRow columns row options cells
          ∃ outcome, FloatOutcome g s.name slot.spec.name raw outcome ∧
            r.bindField row options.pattern cells index = outcome.map (fun y => cells.set index (cell y)) ∧
            (∀ y, outcome = .ok y → bound.2 = .ok () → bound.1[index]? = some (cell y)) ∧
            (∀ e, outcome = .error e → (∃ fault, bound.2 = .error fault) ∧ bound.1[index]? = cells[index]?)) ∧
      ∀ (column : Column) (row : Row) (options : BinderOptions), column.family = .float →
        row.get? column.name = some raw →
          ∃ outcome, FloatOutcome .double "f64" column.name raw outcome ∧
            (∀ y, outcome = .ok y → ∀ rest d, RowTarget.bindColumns row options (column :: rest) d =
              RowTarget.bindColumns row options rest (d.insert column.name (.float y))) ∧
            (∀ e, outcome = .error e → ∀ rest d,
              RowTarget.bindColumns row options (column :: rest) d = (d, .error (.refused e))) := by
  refine ⟨fun s g cell r index slot column row cells columns options float place reads text fits => ?_,
    fun column row options float given => ?_⟩
  · exact ⟨_, .of_narrowed float.interchange,
      RecordType.float_bound_or_kept float place reads text fits columns options⟩
  · have decoded : Value.decode column (row.get? column.name) options.pattern = _ :=
      given ▸ Value.decode_float float nonempty
    refine ⟨_, .of_narrowed FloatFormat.interchange_double, fun y taken rest d => ?_, fun e refused rest d => ?_⟩
    · rw [taken] at decoded
      exact RowTarget.bindColumns_of_decode decoded
    · rw [refused] at decoded
      exact RowTarget.bindColumns_of_fault decoded

/-- A ratio of 32 bits keeps what it held under a literal beyond its format, and takes an infinity spelled out. -/
theorem ratio_kept_or_infinite :
    let sample : RecordType := ⟨"Sample", [Slot.ofSpec (FieldSpec.ofName "ratio" (.scalar .single)).orAbsent]⟩
    let bound (raw : String) :=
      (RowTarget.record sample).bindRow [] (Row.ofList [("ratio", some raw)]) .default [.single (.finite true 1 0)]
    ((∃ fault, (bound "1e39").2 = .error fault) ∧ (bound "1e39").1[0]? = some (.single (.finite true 1 0))) ∧
      (bound "-iNf").1[0]? = some (.single (.infinite true)) := by
  intro sample bound
  have reads : (Slot.ofSpec (FieldSpec.ofName "ratio" (.scalar .single)).orAbsent).Reads .single "ratio" :=
    Slot.reads_ofSpec rfl rfl
  obtain ⟨outcome, -, alone, -, kept⟩ := (@finite_literal_never_infinite "1e39" (by decide)).1 .single .single .single
    sample 0 _ "ratio" (Row.ofList [("ratio", some "1e39")]) [.single (.finite true 1 0)] [] .default .single rfl reads
    rfl rfl
  obtain ⟨outcome', spec, -, taken, -⟩ := (@finite_literal_never_infinite "-iNf" (by decide)).1 .single .single .single
    sample 0 _ "ratio" (Row.ofList [("ratio", some "-iNf")]) [.single (.finite true 1 0)] [] .default .single rfl reads
    rfl rfl
  have refused : sample.bindField (Row.ofList [("ratio", some "1e39")]) defaultPattern [.single (.finite true 1 0)] 0 =
      .error (.overflow "ratio" "1e39" "f32") := by decide +kernel
  have infinite := spec.spelled true (@FloatLiteral.SpellsInfinity.intro true ['-'] ['i', 'N', 'f'] .minus (Or.inl rfl))
  exact ⟨kept _ (Except.map_eq_error_iff.mp (alone.symm.trans refused)), taken _ infinite (by decide +kernel)⟩

end StoreAccess
