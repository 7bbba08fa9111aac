import StoreAccess.Proofs.Bind.Conversions
import StoreAccess.Proofs.Number.Integers

/-! What a field makes of a text that its column has: a field for integers reads it as an integer and holds what was
    read or reports why nothing was, and a field for texts holds the text. -/

namespace StoreAccess

variable {slot : Slot} {s : Scalar} {t : IntType} {column raw pattern : String} {row : Row} {content : Cell}

namespace Slot

/-- The field is bound from a column, by a setter that converts to the type it is described with. -/
structure Reads (slot : Slot) (s : Scalar) (column : String) : Prop where
  kind : slot.spec.kind = .scalar s
  unskipped : slot.spec.skip = false
  column : slot.spec.column = column
  converts : ∃ field, slot.assignment = .convert s slot.spec.optional field

theorem reads_ofSpec {f : FieldSpec} (kind : f.kind = .scalar s) (unskipped : f.skip = false) :
    (ofSpec f).Reads s f.column :=
  ⟨kind, unskipped, rfl, f.name, ofSpec_assignment kind unskipped⟩

theorem Reads.bind_int (reads : slot.Reads (.int t) column) (given : row.get? column = some raw) (nonempty : raw ≠ "") :
    slot.bind row pattern content = (FieldValue.readInt t slot.spec.name raw).map (Cell.int t) := by
  obtain ⟨kind, unskipped, rfl, field, converts⟩ := reads
  rw [bind_of_text kind unskipped converts given nonempty, FieldValue.read]
  cases number : FieldValue.readInt t slot.spec.name raw with
  | error e => rfl
  | ok n =>
    have present : (if t.isSigned then FieldValue.int n else .uint n.toNat) ≠ .null := by
      split <;> simp
    exact (Scalar.convertOptional_of_ne_null field present).trans
      (Scalar.convert_number (FieldValue.holds_of_readInt number) field)

theorem Reads.bind_text (reads : slot.Reads .text column) (given : row.get? column = some raw) (nonempty : raw ≠ "") :
    slot.bind row pattern content = .ok (.text raw) := by
  obtain ⟨kind, unskipped, rfl, field, converts⟩ := reads
  rw [bind_of_text kind unskipped converts given nonempty]
  exact Scalar.convertOptional_of_ne_null field (by simp)

/-- Why a number outside the type of a field is refused, and in which words. -/
def outside (f : FieldSpec) (t : IntType) (n : Int) : BindError :=
  let text := String.ofList (intText n)
  if n < 0 ∧ t.isSigned = false then .parse f.name text t.name else .overflow f.name text t.name

theorem ofList_intText_ne (n : Int) : String.ofList (intText n) ≠ "" := by
  intro empty
  have nil : intText n = [] := String.ofList_injective empty
  rw [intText] at nil
  split at nil
  · cases nil
  · exact natText_ne_nil _ nil

theorem Reads.bind_intText (reads : slot.Reads (.int t) column) {n : Int}
    (given : row.get? column = some (String.ofList (intText n))) :
    slot.bind row pattern content = if t.holds n then .ok (.int t n) else .error (outside slot.spec t n) := by
  rw [reads.bind_int given (ofList_intText_ne n), FieldValue.readInt_eq, String.toList_ofList,
    IntLiteral.readNarrow_intText]
  by_cases holds : t.holds n = true
  · rw [if_pos holds, if_pos holds]
    rfl
  · rw [if_neg holds, if_neg holds, outside, IntLiteral.outside]
    by_cases unsigned : n < 0 ∧ t.isSigned = false
    · rw [if_pos unsigned, if_pos unsigned]
      rfl
    · rw [if_neg unsigned, if_neg unsigned]
      rfl

end Slot

end StoreAccess
