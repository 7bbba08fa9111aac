import StoreAccess.Proofs.Bind.Texts
import StoreAccess.Proofs.Data.Outcomes
import StoreAccess.Proofs.Number.Literals

/-! Whole numbers in fields and in maps. A field takes the literals of the numbers that its type holds, as exactly
    these numbers, and refuses every other text without being touched. A refusal tells a number out of range from a
    text that is none by what was read up to there: where the digits run out of the widest type, nothing after them is
    looked at. -/

namespace StoreAccess

open IntLiteral (Denotes Holds Overruns)

variable {t : IntType} {slot : Slot} {row : Row} {column target raw pattern : String} {content : Cell} {n : Int}
  {e : BindError}

/-! ### Texts -/

/-- The reasons for which a text is refused as a number of a type. -/
structure Refusal (t : IntType) (target raw : String) (e : BindError) : Prop where
  overflow_iff : e = .overflow target raw t.name ↔
    (∃ n, Denotes t.isSigned raw.toList n ∧ ¬(t.lowest ≤ n ∧ n ≤ t.greatest)) ∨ Overruns t raw.toList
  parse_iff : e = .parse target raw t.name ↔ (¬∃ n, Denotes t.isSigned raw.toList n) ∧ ¬Overruns t raw.toList
  /-- There is no other reason. -/
  either : e = .parse target raw t.name ∨ e = .overflow target raw t.name

namespace FieldValue

theorem readInt_eq_ok_iff : readInt t target raw = .ok n ↔ Holds t raw.toList n := by
  rw [readInt_eq, Except.mapError_eq_ok_iff, IntLiteral.readNarrow_eq_ok_iff]

theorem refusal_of_readInt (fails : readInt t target raw = .error e) : Refusal t target raw e := by
  rw [readInt_eq, Except.mapError_eq_error_iff] at fails
  obtain ⟨fault, read, rfl⟩ := fails
  cases fault with
  | malformed =>
    obtain ⟨noLiteral, noStart⟩ := IntLiteral.readNarrow_eq_malformed_iff.mp read
    refine ⟨iff_of_false (by simp [numberError]) ?_, iff_of_true rfl ⟨noLiteral, noStart⟩, Or.inl rfl⟩
    exact fun outside => outside.elim (fun ⟨n, literal, _⟩ => noLiteral ⟨n, literal⟩) noStart
  | outOfRange =>
    have outside := IntLiteral.readNarrow_eq_outOfRange_iff.mp read
    refine ⟨iff_of_true rfl outside, iff_of_false (by simp [numberError]) ?_, Or.inr rfl⟩
    exact fun ⟨noLiteral, noStart⟩ => outside.elim (fun ⟨n, literal, _⟩ => noLiteral ⟨n, literal⟩) noStart

end FieldValue

/-! ### Fields -/

namespace Slot

theorem Reads.bind_of_holds (reads : slot.Reads (.int t) column) (given : row.get? column = some raw)
    (nonempty : raw ≠ "") (literal : Holds t raw.toList n) : slot.bind row pattern content = .ok (.int t n) := by
  rw [reads.bind_int given nonempty, FieldValue.readInt_eq_ok_iff.mpr literal]
  rfl

theorem Reads.refusal_of_bind (reads : slot.Reads (.int t) column) (given : row.get? column = some raw)
    (nonempty : raw ≠ "") (fails : slot.bind row pattern content = .error e) : Refusal t slot.spec.name raw e := by
  rw [reads.bind_int given nonempty, Except.map_eq_error_iff] at fails
  exact FieldValue.refusal_of_readInt fails

theorem Reads.exists_holds_of_bind {cell : Cell} (reads : slot.Reads (.int t) column)
    (given : row.get? column = some raw) (nonempty : raw ≠ "") (bound : slot.bind row pattern content = .ok cell) :
    ∃ n, Holds t raw.toList n := by
  rw [reads.bind_int given nonempty] at bound
  obtain ⟨n, read, -⟩ := exists_of_map_eq_ok bound
  exact ⟨n, FieldValue.readInt_eq_ok_iff.mp read⟩

end Slot

namespace RecordType

/-- A field for whole numbers takes a text iff it is a literal of a number that the type of the field holds, and then
    holds exactly this number. For every other text the row is refused, by this field in its own name unless one before
    it is, and the field keeps what it held. -/
theorem integer_exact_or_kept {r : RecordType} {index : Nat} {content : List Cell}
    (place : r.slots[index]? = some slot) (reads : slot.Reads (.int t) column) (given : row.get? column = some raw)
    (nonempty : raw ≠ "") (fits : content.length = r.slots.length) (columns : List Column) (options : BinderOptions) :
    let alone := r.bindField row options.pattern content index
    let bound := (RowTarget.record r).bindRow columns row options content
    ((∃ after, alone = .ok after) ↔ ∃ n, Holds t raw.toList n) ∧
      (∀ n, Holds t raw.toList n → alone = .ok (content.set index (.int t n)) ∧
        (bound.2 = .ok () → bound.1[index]? = some (.int t n))) ∧
      ((¬∃ n, Holds t raw.toList n) →
        (alone = .error (.parse slot.spec.name raw t.name) ∨ alone = .error (.overflow slot.spec.name raw t.name)) ∧
          (∃ fault, bound.2 = .error fault) ∧ bound.1[index]? = content[index]?) := by
  intro alone bound
  obtain ⟨cell, held⟩ : ∃ cell, content[index]? = some cell :=
    ⟨_, List.getElem?_eq_getElem (fits ▸ (List.getElem?_eq_some_iff.mp place).1)⟩
  have field : alone = (slot.bind row options.pattern cell).map (content.set index) := bindField_eq place held
  have takes (n) (literal : Holds t raw.toList n) : slot.bind row options.pattern cell = .ok (.int t n) :=
    reads.bind_of_holds given nonempty literal
  refine ⟨⟨fun ⟨after, succeeds⟩ => ?_, fun ⟨n, literal⟩ => ?_⟩, fun n literal => ⟨?_, fun done => ?_⟩,
    fun noLiteral => ?_⟩
  · obtain ⟨cell', own, -⟩ := exists_of_map_eq_ok (field.symm.trans succeeds)
    exact reads.exists_holds_of_bind given nonempty own
  · exact ⟨_, field.trans (congrArg _ (takes n literal))⟩
  · exact field.trans (congrArg _ (takes n literal))
  · exact bindSlots_of_ok fits place held (takes n literal) (Except.mapError_eq_ok_iff.mp done)
  · cases own : slot.bind row options.pattern cell with
    | ok cell' => exact absurd (reads.exists_holds_of_bind given nonempty own) noLiteral
    | error e =>
      have failsAlone : alone = .error e := field.trans (congrArg _ own)
      have reason := (reads.refusal_of_bind given nonempty own).either
      obtain ⟨⟨e', failed⟩, kept⟩ := bindSlots_of_error fits place held own
      refine ⟨?_, ⟨.refused e', congrArg (Except.mapError BindFault.refused) failed⟩, kept⟩
      exact reason.imp (failsAlone ▸ congrArg _ ·) (failsAlone ▸ congrArg _ ·)

/-- The least number of a signed byte, written with zeros in front, and the first number beyond the greatest. -/
theorem gauge_exact_or_kept :
    let gauge : RecordType := ⟨"Gauge", [Slot.ofSpec (FieldSpec.ofName "level" (.scalar (.int .i8))).orAbsent]⟩
    let bound (raw : String) :=
      (RowTarget.record gauge).bindRow [] (Row.ofList [("level", some raw)]) .default [.int .i8 7]
    (bound "-00128").1[0]? = some (.int .i8 (-128)) ∧ (∃ fault, (bound "128").2 = .error fault) ∧
      (bound "128").1[0]? = some (.int .i8 7) := by
  intro gauge bound
  have reads : (Slot.ofSpec (FieldSpec.ofName "level" (.scalar (.int .i8))).orAbsent).Reads (.int .i8) "level" :=
    Slot.reads_ofSpec rfl rfl
  have literal : Holds .i8 "-00128".toList (-128) :=
    ⟨@Denotes.intro true ['-'] ['0', '0', '1', '2', '8'] _ (.minus rfl) (List.all_eq_true.mp rfl) (by decide),
      by decide⟩
  have noLiteral : ¬∃ n, Holds .i8 "128".toList n := by
    rintro ⟨n, literal⟩
    have read := IntLiteral.readNarrow_eq_ok_iff.mpr literal
    cases read
  obtain ⟨-, taken, -⟩ := @integer_exact_or_kept .i8 _ (Row.ofList [("level", some "-00128")]) _ _ gauge 0
    [.int .i8 7] rfl reads rfl (by decide) rfl [] .default
  obtain ⟨-, -, refused⟩ := @integer_exact_or_kept .i8 _ (Row.ofList [("level", some "128")]) _ _ gauge 0
    [.int .i8 7] rfl reads rfl (by decide) rfl [] .default
  exact ⟨(taken _ literal).2 rfl, (refused noLiteral).2⟩

end RecordType

/-! ### Refusals -/

/-- A text that a field or a column for whole numbers refuses is out of range if it is a literal of another number, or
    if it starts with a literal too large for 64 bits, and malformed if neither. So only where the digits run out of
    64 bits a text that is no literal is taken for a number. -/
theorem refusal_by_what_was_read (nonempty : raw ≠ "") :
    (∀ (t : IntType) (slot : Slot) (column : String) (row : Row) (pattern : String) (content : Cell) (e : BindError),
      slot.Reads (.int t) column → row.get? column = some raw → slot.bind row pattern content = .error e →
        Refusal t slot.spec.name raw e) ∧
      ∀ (column : Column) (pattern : String) (fault : BindFault), column.family = .integer →
        Value.decode column (some raw) pattern = .error fault →
          ∃ e, fault = .refused e ∧ Refusal .i64 column.name raw e := by
  refine ⟨fun t slot column row pattern content e reads given fails => reads.refusal_of_bind given nonempty fails,
    fun column pattern fault integer fails => ?_⟩
  simp only [Value.decode, integer, nonempty, ↓reduceIte, Except.mapError_eq_error_iff] at fails
  obtain ⟨e, read, rfl⟩ := fails
  exact ⟨e, rfl, FieldValue.refusal_of_readInt (Except.map_eq_error_iff.mp read)⟩

/-- More than a signed byte holds, and a letter after it: the number fits 64 bits, so the letter is seen. -/
theorem letter_after_number_malformed :
    let level := Slot.ofSpec (.ofName "level" (.scalar (.int .i8)))
    level.bind (Row.ofList [("level", some "300x")]) defaultPattern .absent =
        .error (.parse "level" "300x" "i8") ∧
      (¬∃ n, Denotes true "300x".toList n) ∧ ¬Overruns .i8 "300x".toList := by
  intro level
  have refusal := (@refusal_by_what_was_read "300x" (by decide)).1 .i8 level "level"
    (Row.ofList [("level", some "300x")]) defaultPattern .absent _ (Slot.reads_ofSpec rfl rfl) rfl rfl
  exact ⟨rfl, refusal.parse_iff.mp rfl⟩

/-- More than 64 bits hold, and a letter after it: a text that is no literal is refused as a number out of range. -/
theorem letter_after_overrun_unseen :
    let raw := "99999999999999999999x"
    let level := Slot.ofSpec (.ofName "level" (.scalar (.int .i8)))
    (¬∃ n, Denotes true raw.toList n) ∧
      level.bind (Row.ofList [("level", some raw)]) defaultPattern .absent = .error (.overflow "level" raw "i8") ∧
      Value.decode ⟨"n", "BIGINT"⟩ (some raw) defaultPattern = .error (.refused (.overflow "n" raw "i64")) := by
  intro raw level
  refine ⟨fun ⟨n, literal⟩ => ?_, by decide +kernel, by decide +kernel⟩
  have letter := literal.isDigit_or_sign 'x' (by decide)
  revert letter
  decide

end StoreAccess
