import StoreAccess.Bind.Record
import StoreAccess.Exchange.Fields
import StoreAccess.Text.Hex

/-! Values as exchanged data that keep their type: each is an object with the type as its only key.
    Integers are written as decimal texts and floating-point numbers by their bit pattern, so that
    nothing is lost on the way; floating-point numbers are read from literals. -/

namespace StoreAccess

namespace Json

/-- A decimal text as data. -/
def decimal (n : Int) : Json := .str (String.ofList (intText n))

/-- An object with one key. -/
def tagged (tag : String) (j : Json) : Json := .obj [(tag, j)]

/-- A text, or null. -/
def ofText? : Option String → Json
  | some s => .str s
  | none => .null

/-- An integer of any size, from its decimal text. -/
def decimal? : Json → Option Int
  | .str s =>
    match s.toList with
    | '-' :: ds => (natural? ds).map fun n => -(n : Int)
    | ds => (natural? ds).map fun n => (n : Int)
  | _ => none
where
  natural? (ds : List Char) : Option Nat :=
    if !ds.isEmpty && ds.all FloatLiteral.isDigit then some (FloatLiteral.digitsValue ds) else none

def literal? (j : Json) : Option Double :=
  j.text?.bind fun s => Double.read? s.toList

end Json

/-- The bit pattern of a number in so many digits; a number that is none is only named. -/
def Binary.tagged {f : FloatFormat} (digits : Nat) : Binary f → Json
  | .nan => .str "nan"
  | x => .str (String.ofList (Text.hexFixed digits x.bits))

def Moment.tagged (m : Moment) : Json := .arr [.decimal m.seconds, .decimal m.nanos]

def Moment.ofTagged? : Json → Option Moment
  | .arr [s, n] => do some ⟨← s.decimal?, (← n.decimal?).toNat⟩
  | _ => none

namespace Value

def tagged : Value → Json
  | null => .null
  | int n => .tagged "int" (.decimal n)
  | float x => .tagged "float" (x.tagged 16)
  | text s => .tagged "text" (.str s)

def ofTagged? : Json → Option Value
  | .null => some null
  | .obj [("int", j)] => j.decimal?.map int
  | .obj [("float", j)] => j.literal?.map float
  | .obj [("text", .str s)] => some (text s)
  | _ => none

end Value

def FieldValue.ofTagged? : Json → Option FieldValue
  | .obj [("Null", _)] => some .null
  | .obj [("Str", .str s)] => some (.text s)
  | .obj [("Bool", .bool b)] => some (.bool b)
  | .obj [("Int", j)] => j.decimal?.map .int
  | .obj [("UInt", j)] => j.decimal?.map fun n => .uint n.toNat
  | .obj [("Float", j)] => j.literal?.map .float
  | .obj [("DateTime", j)] => (Moment.ofTagged? j).map .naiveTime
  | .obj [("DateTimeUtc", j)] => (Moment.ofTagged? j).map .utcTime
  | _ => none

def Cell.tagged : Cell → Json
  | .absent => .null
  | .text s => .tagged "string" (.str s)
  | .bool b => .tagged "bool" (.bool b)
  | .int t n => .tagged t.name (.decimal n)
  | .single x => .tagged "f32" (x.tagged 8)
  | .double x => .tagged "f64" (x.tagged 16)
  | .naiveTime m => .tagged "naive" m.tagged
  | .utcTime m => .tagged "utc" m.tagged
  | .fixed s => .tagged "opaque" (.str s)

/-- The fields of a record by name, in order. -/
def RecordType.tagged (r : RecordType) (content : List Cell) : Json :=
  .arr ((r.slots.zip content).map fun p => .arr [.str p.1.spec.name, p.2.tagged])

end StoreAccess
