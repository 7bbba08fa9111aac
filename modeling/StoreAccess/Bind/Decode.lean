import StoreAccess.Bind.FieldValue
import StoreAccess.Tabular.Table
import StoreAccess.Value

/-! Decoding a column for a map target, by the family of its declared type. -/

namespace StoreAccess

/-- Why binding stops: an error, or a datetime pattern that cannot be written by, for which there is no
    error value and which aborts the caller. -/
inductive BindFault where
  | refused (error : BindError)
  | brokenPattern
  deriving DecidableEq, Repr

namespace Value

/-- A datetime in the internet form is rewritten by the pattern, as shown at its own offset; any other
    text is kept. -/
def normalizeTime? (raw pattern : String) : Option String :=
  match Internet.read? raw.toList with
  | some (t, offset) => (Pattern.write? pattern.toList t offset).map String.ofList
  | none => some raw

/-- Decodes the text under a column. -/
def decode (column : Column) (raw : Option String) (pattern : String) : Except BindFault Value :=
  match raw with
  | none => .ok null
  | some raw =>
    match column.family with
    | .integer =>
      if raw = "" then .ok null
      else ((FieldValue.readInt .i64 column.name raw).map int).mapError .refused
    | .float =>
      if raw = "" then .ok null
      else ((FieldValue.readFloat .double "f64" column.name raw).map float).mapError .refused
    | .datetime => (normalizeTime? raw pattern).elim (.error .brokenPattern) fun s => .ok (text s)
    | .boolean | .text => .ok (text raw)

end Value

end StoreAccess
