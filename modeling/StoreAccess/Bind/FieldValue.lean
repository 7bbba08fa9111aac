import StoreAccess.Bind.Schema
import StoreAccess.Calendar.PatternRead
import StoreAccess.Error
import StoreAccess.Number.FloatLiteral
import StoreAccess.Number.Shortest

/-! The way from a raw text to a field. A raw text is read once, by the kind of its field, into a field
    value; a field value is then converted to the field's type. Every narrowing is checked. -/

namespace StoreAccess

inductive FieldValue where
  | null
  | text (s : String)
  | bool (b : Bool)
  | int (n : Int)
  | uint (n : Nat)
  | float (x : Double)
  | naiveTime (m : Moment)
  | utcTime (m : Moment)
  deriving DecidableEq, Repr

/-- What a field of a record holds. -/
inductive Cell where
  | absent
  | text (s : String)
  | bool (b : Bool)
  | int (t : IntType) (n : Int)
  | single (x : Single)
  | double (x : Double)
  | naiveTime (m : Moment)
  | utcTime (m : Moment)
  /-- The value of a field of a type that is never bound, shown as text. -/
  | fixed (text : String)
  deriving DecidableEq, Repr

namespace FieldValue

/-- The value as messages quote it. -/
def describe : FieldValue → String
  | null => "NULL"
  | text s => s
  | bool b => if b then "true" else "false"
  | int n => String.ofList (intText n)
  | uint n => String.ofList (natText n)
  | float x => String.ofList x.text
  | naiveTime m => String.ofList m.text
  | utcTime m => String.ofList m.internetText

def mismatch (v : FieldValue) (target expected : String) : BindError :=
  .parse target v.describe expected

end FieldValue

namespace Scalar

/-- Converts an integer that must lie in the range of its type. -/
def convertInt (t : IntType) (v : FieldValue) (n : Int) (target : String) : Except BindError Cell :=
  if t.holds n then .ok (.int t n) else .error (.overflow target v.describe t.name)

/-- Converts a field value to a field's type; `target` names the field in errors. -/
def convert (s : Scalar) (v : FieldValue) (target : String) : Except BindError Cell :=
  match s, v with
  | text, .text s => .ok (.text s)
  | text, v => .error (v.mismatch target "string")
  | bool, .bool b => .ok (.bool b)
  | bool, v => .error (v.mismatch target "bool")
  | int t, .int n => convertInt t v n target
  | int t, .uint n => convertInt t v n target
  | int t, v => .error (v.mismatch target t.name)
  | double, .float x => .ok (.double x)
  | double, v => .error (v.mismatch target "f64")
  | single, .float x =>
    if !x.isFinite || x.fitsIn .single then .ok (.single (x.convert .single))
    else .error (.overflow target v.describe "f32")
  | single, v => .error (v.mismatch target "f32")
  | naiveTime, .naiveTime m => .ok (.naiveTime m)
  | naiveTime, .utcTime m => .ok (.naiveTime m)
  | naiveTime, v => .error (v.mismatch target "datetime")
  | utcTime, .utcTime m => .ok (.utcTime m)
  | utcTime, .naiveTime m => .ok (.utcTime m)
  | utcTime, v => .error (v.mismatch target "datetime")

/-- Converts to a field of the type that may be absent: null leaves it so. -/
def convertOptional (s : Scalar) (optional : Bool) (v : FieldValue) (target : String) :
    Except BindError Cell :=
  if optional && v = .null then .ok .absent else s.convert v target

/-- The value a field of the type starts with. -/
def initial : Scalar → Cell
  | text => .text ""
  | bool => .bool false
  | int t => .int t 0
  | single => .single (.finite false 0 0)
  | double => .double (.finite false 0 0)
  | naiveTime => .naiveTime .epoch
  | utcTime => .utcTime .epoch

end Scalar

namespace FieldValue

/-- Reads an integer of a type. -/
def readInt (t : IntType) (target raw : String) : Except BindError Int :=
  match IntLiteral.readNarrow t raw.toList with
  | .ok n => .ok n
  | .error .outOfRange => .error (.overflow target raw t.name)
  | .error .malformed => .error (.parse target raw t.name)

/-- The letters `inf`, in lower case, occur in a text. -/
def holdsInf : List Char → Bool
  | [] => false
  | c :: rest => ['i', 'n', 'f'].isPrefixOf (c :: rest) || holdsInf rest

/-- The text names infinity: the letters `inf`, in any case, occur in it. -/
def namesInfinity (cs : List Char) : Bool :=
  holdsInf (Text.lowerAscii cs)

/-- Reads a floating-point number that must not exceed the format of its type. A literal of a finite
    number that is read as infinite is out of range. -/
def readFloat (format : FloatFormat) (kind target raw : String) : Except BindError Double :=
  match Double.read? raw.toList with
  | none => .error (.parse target raw kind)
  | some x =>
    if x.isInfinite && !namesInfinity raw.toList then .error (.overflow target raw kind)
    else if x.isFinite && !x.fitsIn format then .error (.overflow target raw kind)
    else .ok x

/-- Reads a moment: the internet form, or the pattern at universal time. -/
def readMoment? (pattern raw : String) : Option Moment :=
  match Internet.read? raw.toList with
  | some (t, offset) => some (t.moment offset)
  | none => (Pattern.read? pattern.toList raw.toList).map fun t => t.moment 0

/-- Reads a raw text by the type of its field. -/
def read (s : Scalar) (target raw pattern : String) : Except BindError FieldValue :=
  match s with
  | .text => .ok (text raw)
  | .bool => .ok (bool (raw = "1" || raw = "true"))
  | .int t =>
    (readInt t target raw).map fun n => if t.isSigned then int n else uint n.toNat
  | .single => (readFloat .single "f32" target raw).map float
  | .double => (readFloat .double "f64" target raw).map float
  | .naiveTime =>
    (readMoment? pattern raw).elim (.error (.parse target raw "datetime")) fun m => .ok (naiveTime m)
  | .utcTime =>
    (readMoment? pattern raw).elim (.error (.parse target raw "datetime")) fun m => .ok (utcTime m)

/-- Reads a raw text for a field. -/
def coerce (field : FieldSpec) (raw pattern : String) : Except BindError FieldValue :=
  match field.kind with
  | .scalar s => read s field.name raw pattern
  | .unsupported kind => .error (.unsupported field.name kind)

end FieldValue

end StoreAccess
