import StoreAccess.Bind.Decode

/-! Records: a field's place, what assigning to it does, and the binding of a row field by field, up to
    the first field that fails. -/

namespace StoreAccess

/-- What assigning to a field does. -/
inductive Assignment where
  /-- Nothing. -/
  | ignore
  /-- The value is converted to the field's type; `field` names it in errors. -/
  | convert (s : Scalar) (optional : Bool) (field : String)
  /-- The field reports that its type cannot be assigned. -/
  | reject (field kind : String)
  deriving DecidableEq, Repr

namespace Assignment

/-- The content of a field after a value is assigned to it. -/
def apply (a : Assignment) (content : Cell) (v : FieldValue) : Except BindError Cell :=
  match a with
  | ignore => .ok content
  | convert s optional field => s.convertOptional optional v field
  | reject field kind => .error (.unsupported field kind)

end Assignment

/-- A field of a record type: its description, how it is assigned to, and what it starts with. -/
structure Slot where
  spec : FieldSpec
  assignment : Assignment
  initial : Cell
  deriving DecidableEq, Repr

structure RecordType where
  name : String
  slots : List Slot
  deriving DecidableEq, Repr

namespace Slot

/-- The text that a row gives the field, or the field's default for an empty one, unless both are
    empty. -/
def resolve (f : FieldSpec) (row : Row) : Option String :=
  (((row.get? f.column).filter (· ≠ "")).or f.default).filter (· ≠ "")

/-- The value that a row gives the field to be set to, if it is to be set at all. Types that cannot be bound
    are an error only for a text that is there. -/
def handed (f : FieldSpec) (row : Row) (pattern : String) : Except BindError (Option FieldValue) :=
  if f.skip then .ok none
  else
    match resolve f row with
    | some raw => (FieldValue.coerce f raw pattern).map some
    | none =>
      if f.notEmpty then .error (.required f.name (row.get? f.column).isNone)
      else if f.kind.isUnsupported then .ok none
      else if f.optional then .ok (some .null)
      else if f.kind = .scalar .text then .ok (some (.text ""))
      else .ok none

/-- Binds the field: its content afterwards. -/
def bind (slot : Slot) (row : Row) (pattern : String) (content : Cell) : Except BindError Cell := do
  match ← handed slot.spec row pattern with
  | some v => slot.assignment.apply content v
  | none => .ok content

end Slot

namespace RecordType

def schema (r : RecordType) : Schema :=
  ⟨r.name, r.slots.map Slot.spec⟩

/-- A record as it starts. -/
def initial (r : RecordType) : List Cell :=
  r.slots.map Slot.initial

/-- Assigns to the field at an index; an index beyond the fields does nothing. -/
def assign (r : RecordType) (content : List Cell) (index : Nat) (v : FieldValue) :
    Except BindError (List Cell) :=
  match r.slots[index]?, content[index]? with
  | some slot, some cell => (slot.assignment.apply cell v).map (content.set index)
  | _, _ => .ok content

/-- Binds slot by slot: the content afterwards, and the error of the first field that fails. Fields
    bound before it keep their new content. -/
def bindSlots (row : Row) (pattern : String) : List Slot → List Cell → List Cell × Except BindError Unit
  | slot :: slots, cell :: cells =>
    match slot.bind row pattern cell with
    | .ok cell =>
      let (cells, outcome) := bindSlots row pattern slots cells
      (cell :: cells, outcome)
    | .error e => (cell :: cells, .error e)
  | _, cells => (cells, .ok ())

def bindRow (r : RecordType) (row : Row) (pattern : String) (content : List Cell) :
    List Cell × Except BindError Unit :=
  bindSlots row pattern r.slots content

end RecordType

end StoreAccess
