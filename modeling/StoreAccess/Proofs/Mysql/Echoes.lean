import StoreAccess.Bind.Decode
import StoreAccess.Proofs.Mysql.Cells
import StoreAccess.Proofs.Number.ShortestText

/-! Parameters that the server gives back. The datum of a value has a text that is decoded to the value again, under
    each column whose family is the value's. -/

namespace StoreAccess

theorem FieldValue.readFloat_text {x : Double} (canonical : x.Canonical) (kind target : String) :
    readFloat .double kind target (String.ofList x.text) = .ok x := by
  rw [readFloat, String.toList_ofList, Double.read?_text canonical]
  rcases x with _ | negative | ⟨negative, m, s⟩
  case nan => rfl
  case infinite => cases negative <;> rfl
  case finite =>
    have fits := Binary.fitsIn_of_canonical canonical
    simp only [Binary.isInfinite, Binary.isFinite, fits, Bool.false_and, Bool.not_true, Bool.and_false,
      Bool.false_eq_true, if_false]

theorem Double.ofList_text_ne {x : Double} (canonical : x.Canonical) : String.ofList x.text ≠ "" := by
  intro empty
  have nil : x.text = [] := String.ofList_injective empty
  have read := Double.read?_text canonical
  rw [nil] at read
  cases read

namespace Value

/-- The value is of one of the types of values: a whole number is one of 64 bits with a sign, and a floating-point
    number has a bit pattern. -/
def Typed : Value → Prop
  | int n => IntType.i64.holds n = true
  | float x => ∃ bits, x = Binary.ofBits .double bits
  | _ => True

/-- A family of columns is the one for the value. Nothing stands in every column. -/
def Fits (family : Family) : Value → Prop
  | null => True
  | int _ => family = .integer
  | float _ => family = .float
  | text _ => family = .text

/-- A value that the server gives back as it was sent is decoded to itself. -/
theorem decode_echo {v : Value} {column : Column} (typed : v.Typed) (fits : v.Fits column.family) (pattern : String) :
    decode column (Mysql.Datum.ofValue v).text? pattern = .ok v := by
  cases v with
  | null => rfl
  | int n =>
    have read : FieldValue.readInt .i64 column.name (String.ofList (intText n)) = .ok n := by
      rw [FieldValue.readInt_eq, String.toList_ofList, IntLiteral.readNarrow_intText,
        if_pos (show IntType.i64.holds n = true from typed)]
      rfl
    rw [Mysql.Datum.ofValue, Mysql.Datum.text?, decode]
    simp only [show column.family = .integer from fits, Slot.ofList_intText_ne, if_false, read]
    rfl
  | float x =>
    have canonical : x.Canonical := Binary.canonical_iff.mpr typed
    have read := FieldValue.readFloat_text canonical "f64" column.name
    rw [Mysql.Datum.ofValue, Mysql.Datum.text?, decode]
    simp only [show column.family = .float from fits, Double.ofList_text_ne canonical, if_false, read]
    rfl
  | text s =>
    rw [Mysql.Datum.ofValue, Mysql.Datum.text?_utf8, decode]
    simp only [show column.family = .text from fits]

/-- The least whole number, the negative zero, the number that is none and the empty text. -/
theorem decode_echo_extremes :
    let whole := Column.mk "n" "BIGINT(20)"
    let real := Column.mk "x" "double"
    let words := Column.mk "s" "VARCHAR(8)"
    decode whole (some "-9223372036854775808") defaultPattern = .ok (int (-9223372036854775808)) ∧
      decode real (some "-0") defaultPattern = .ok (float (.finite true 0 0)) ∧
      decode real (some "NaN") defaultPattern = .ok (float .nan) ∧
      decode words (some "") defaultPattern = .ok (text "") := by
  intro whole real words
  have least : (Mysql.Datum.ofValue (int (-9223372036854775808))).text? = some "-9223372036854775808" := by
    decide +kernel
  have zero : (Mysql.Datum.ofValue (float (.finite true 0 0))).text? = some "-0" := by decide +kernel
  have nothing : (Mysql.Datum.ofValue (float .nan)).text? = some "NaN" := by decide +kernel
  have empty : (Mysql.Datum.ofValue (text "")).text? = some "" := by decide +kernel
  have inWhole : whole.family = .integer := by decide +kernel
  have inReal : real.family = .float := by decide +kernel
  have inWords : words.family = .text := by decide +kernel
  rw [← least, ← zero, ← nothing, ← empty]
  have holds : IntType.i64.holds (-9223372036854775808) = true := by decide
  exact ⟨decode_echo (v := int _) holds inWhole defaultPattern,
    decode_echo (v := float _) ⟨2 ^ 63, by decide +kernel⟩ inReal defaultPattern,
    decode_echo (v := float _) ⟨2047 * 2 ^ 52 + 1, by decide +kernel⟩ inReal defaultPattern,
    decode_echo (v := text _) trivial inWords defaultPattern⟩

end Value

end StoreAccess
