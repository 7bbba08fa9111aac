import StoreAccess.Number.IntType
import StoreAccess.Text.Lower

/-! Schemas of records: for each field its name, the column it reads, what stands in for an empty
    value, and its kind. -/

namespace StoreAccess

/-- The types a bound field can have. -/
inductive Scalar where
  | text
  | bool
  | int (t : IntType)
  | single
  | double
  /-- A moment shown without its offset. -/
  | naiveTime
  /-- A moment at universal time. -/
  | utcTime
  deriving DecidableEq, Repr

namespace Scalar

/-- The name a type goes by in schemas and messages. -/
def name : Scalar → String
  | text => "string"
  | bool => "bool"
  | int t => t.name
  | single => "f32"
  | double => "f64"
  | naiveTime => "NaiveDateTime"
  | utcTime => "DateTime<Utc>"

/-- The type that a declared type name stands for. -/
def ofTypeName? (name : String) : Option Scalar :=
  if name = "String" ∨ name = "str" then some text
  else if name = "bool" then some bool
  else if name = "f32" then some single
  else if name = "f64" then some double
  else if name = "NaiveDateTime" then some naiveTime
  else if name = "DateTime" then some utcTime
  else (IntType.all.find? fun t => t.name == name).map int

end Scalar

/-- The kind of a field: a type the binder fills, or the name of one it does not. -/
inductive FieldKind where
  | scalar (s : Scalar)
  | unsupported (name : String)
  deriving DecidableEq, Repr

namespace FieldKind

def ofTypeName (name : String) : FieldKind :=
  (Scalar.ofTypeName? name).elim (unsupported name) scalar

def name : FieldKind → String
  | scalar s => s.name
  | unsupported name => name

def isUnsupported : FieldKind → Bool
  | unsupported _ => true
  | scalar _ => false

end FieldKind

structure FieldSpec where
  name : String
  column : String
  /-- The text used for an empty value. -/
  default : Option String
  /-- An empty value is an error. -/
  notEmpty : Bool
  /-- The field is not bound. -/
  skip : Bool
  /-- An empty value is stored as one. -/
  optional : Bool
  kind : FieldKind
  deriving DecidableEq, Repr

namespace FieldSpec

/-- The column a field reads unless it names one. -/
def columnOf (name : String) : String :=
  String.ofList (Text.lower name.toList)

def ofName (name : String) (kind : FieldKind) : FieldSpec :=
  ⟨name, columnOf name, none, false, false, false, kind⟩

def withColumn (f : FieldSpec) (column : String) : FieldSpec := { f with column := column }

def withDefault (f : FieldSpec) (text : String) : FieldSpec := { f with default := some text }

def requiring (f : FieldSpec) : FieldSpec := { f with notEmpty := true }

def skipped (f : FieldSpec) : FieldSpec := { f with skip := true }

def orAbsent (f : FieldSpec) : FieldSpec := { f with optional := true }

end FieldSpec

structure Schema where
  typeName : String
  fields : List FieldSpec
  deriving DecidableEq, Repr

namespace Schema

/-- The first field of a name. -/
def field? (s : Schema) (name : String) : Option FieldSpec :=
  s.fields.find? fun f => f.name == name

/-- The columns that are read. -/
def columns (s : Schema) : List String :=
  (s.fields.filter fun f => !f.skip).map FieldSpec.column

end Schema

end StoreAccess
