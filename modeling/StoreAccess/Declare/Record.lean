import StoreAccess.Bind.Record
import StoreAccess.Declare.TypeExpr

/-! Record types from struct declarations. Each field's attributes say how it is bound; the declaration
    is refused if it is not a plain struct with named fields, or if an attribute is not understood. What
    comes out is the list of field descriptions and, for each index, what assigning to it does. -/

namespace StoreAccess
namespace Declare

/-- The value of an attribute item: none for a bare word. -/
inductive Literal where
  | text (s : String)
  | bool (b : Bool)
  | number
  deriving DecidableEq, Repr

/-- One item of an attribute. -/
structure Item where
  key : String
  value : Option Literal
  deriving DecidableEq, Repr

structure Field where
  ident : Option String
  typeText : String
  /-- The items of all attributes of the field. -/
  items : List Item
  deriving DecidableEq, Repr

inductive Shape where
  | named
  | tuple
  | unit
  | enum
  | union
  deriving DecidableEq, Repr

structure Struct where
  name : String
  shape : Shape
  /-- The declaration has generic parameters. -/
  generic : Bool
  items : List Item
  fields : List Field
  deriving DecidableEq, Repr

namespace Item

def text? (i : Item) : Option String :=
  match i.value with
  | some (.text s) => some s
  | _ => none

/-- A flag is set by its bare word, or says so itself. -/
def flag? (i : Item) : Option Bool :=
  match i.value with
  | none => some true
  | some (.bool b) => some b
  | some (.text s) => if s = "true" then some true else if s = "false" then some false else none
  | some .number => none

end Item

/-- What the attributes of a field say. -/
structure Attributes where
  column : Option String
  default : Option String
  notEmpty : Option Bool
  skip : Option Bool
  deriving DecidableEq, Repr

namespace Attributes

def none : Attributes := ⟨.none, .none, .none, .none⟩

/-- Adds an item; a key may be said once only. -/
def add? (a : Attributes) (i : Item) : Option Attributes :=
  if i.key = "column" then
    if a.column.isSome then .none else i.text?.map fun s => { a with column := s }
  else if i.key = "default" then
    if a.default.isSome then .none else i.text?.map fun s => { a with default := s }
  else if i.key = "not_empty" then
    if a.notEmpty.isSome then .none else i.flag?.map fun b => { a with notEmpty := b }
  else if i.key = "skip" then
    if a.skip.isSome then .none else i.flag?.map fun b => { a with skip := b }
  else .none

def ofItems? (items : List Item) : Option Attributes :=
  items.foldlM add? none

end Attributes

/-- A call that completes a field description. -/
inductive Call where
  | column (text : String)
  | default (text : String)
  | notEmpty
  | skip
  | optional
  deriving DecidableEq, Repr

/-- The description of a field: its name, the name of its type, and the calls that complete it. -/
structure Described where
  name : String
  typeName : String
  calls : List Call
  deriving DecidableEq, Repr

/-- What the setter does at an index. -/
inductive Arm where
  | assign (field : String)
  | reject (field kind : String)
  deriving DecidableEq, Repr

structure Record where
  name : String
  fields : List Described
  arms : List (Nat × Arm)
  deriving DecidableEq, Repr

/-- The type names that the setter converts to. -/
def assignable : List String :=
  ["String", "bool", "i8", "i16", "i32", "i64", "isize", "u8", "u16", "u32", "u64", "usize", "f32", "f64",
   "NaiveDateTime", "DateTime"]

/-- Some of `x` if the condition holds. -/
def Call.when (b : Bool) (c : Call) : List Call :=
  if b then [c] else []

namespace Field

/-- The description of a field and, unless it is skipped, its arm. -/
def describe? (f : Field) : Option (Described × Option Arm) := do
  let name ← f.ident
  let type ← TypeExpr.ofText? f.typeText
  let a ← Attributes.ofItems? f.items
  let (inner, optional) := type.unwrapOption
  let kind := inner.kindName
  let skip := a.skip.getD false
  let calls :=
    (a.column.map Call.column).toList ++ (a.default.map Call.default).toList
      ++ Call.when (a.notEmpty.getD false) .notEmpty ++ Call.when skip .skip
      ++ Call.when optional .optional
  let arm := if assignable.contains kind then Arm.assign name else Arm.reject name kind
  some (⟨name, kind, calls⟩, if skip then none else some arm)

end Field

/-- Numbers the arms that are there. -/
def numbered : (start : Nat) → List (Option Arm) → List (Nat × Arm)
  | _, [] => []
  | n, none :: rest => numbered (n + 1) rest
  | n, some arm :: rest => (n, arm) :: numbered (n + 1) rest

/-- The record type of a declaration. -/
def Struct.record? (s : Struct) : Option Record := do
  if s.shape ≠ .named ∨ s.generic ∨ !s.items.isEmpty then none
  let described ← s.fields.mapM Field.describe?
  some ⟨s.name, described.map Prod.fst, numbered 0 (described.map Prod.snd)⟩

namespace Described

def apply (f : FieldSpec) : Call → FieldSpec
  | .column text => f.withColumn text
  | .default text => f.withDefault text
  | .notEmpty => f.requiring
  | .skip => f.skipped
  | .optional => f.orAbsent

/-- The description completed. -/
def spec (d : Described) : FieldSpec :=
  d.calls.foldl apply (.ofName d.name (.ofTypeName d.typeName))

end Described

namespace Record

def schema (r : Record) : Schema :=
  ⟨r.name, r.fields.map Described.spec⟩

/-- What assigning to the field at an index does. -/
def assignment (r : Record) (index : Nat) (spec : FieldSpec) : Assignment :=
  match r.arms.lookup index with
  | none => .ignore
  | some (.reject field kind) => .reject field kind
  | some (.assign field) =>
    match spec.kind with
    | .scalar s => .convert s spec.optional field
    | .unsupported kind => .reject field kind

/-- The record type, given what its fields start with. -/
def recordType (r : Record) (initial : FieldSpec → Cell) : RecordType :=
  let specs := r.schema.fields
  ⟨r.name, specs.mapIdx fun i f => ⟨f, r.assignment i f, initial f⟩⟩

end Record

end Declare

namespace Slot

/-- The slot of a described field whose setter converts to the described kind: a skipped field is left
    alone, one of a kind that cannot be bound is refused. -/
def ofSpec (f : FieldSpec) : Slot :=
  let assignment : Assignment :=
    if f.skip then .ignore
    else match f.kind with
      | .scalar s => .convert s f.optional f.name
      | .unsupported kind => .reject f.name kind
  let initial : Cell :=
    if f.optional then .absent
    else match f.kind with
      | .scalar s => s.initial
      | .unsupported _ => .absent
  ⟨f, assignment, initial⟩

end Slot

end StoreAccess
