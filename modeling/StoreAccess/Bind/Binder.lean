import StoreAccess.Bind.Record
import StoreAccess.Log

/-! Binding results to targets of three shapes: maps from column names to values, records, and growing
    sequences of either. -/

namespace StoreAccess

/-- The pattern that datetimes are read and written by unless another one is set. -/
def defaultPattern : String := "%Y-%m-%d %H:%M:%S"

structure BinderOptions where
  pattern : String
  deriving DecidableEq, Repr

namespace BinderOptions

def default : BinderOptions := ⟨defaultPattern⟩

def withPattern (_ : BinderOptions) (pattern : String) : BinderOptions := ⟨pattern⟩

end BinderOptions

/-- A kind of target: what one starts as, and what binding a row makes of it. A target whose row fails
    to bind keeps what was bound before. -/
structure RowTarget (α : Type) where
  initial : α
  bindRow : List Column → Row → BinderOptions → α → α × Except BindFault Unit

namespace RowTarget

/-- Binds column by column into a map. -/
def bindColumns (row : Row) (options : BinderOptions) :
    List Column → Dict Value → Dict Value × Except BindFault Unit
  | [], d => (d, .ok ())
  | c :: rest, d =>
    match Value.decode c (row.get? c.name) options.pattern with
    | .ok v => bindColumns row options rest (d.insert c.name v)
    | .error e => (d, .error e)

/-- Maps take every column. -/
def map : RowTarget (Dict Value) where
  initial := .empty
  bindRow columns row options d := bindColumns row options columns d

/-- Records take the columns their schema names. -/
def record (r : RecordType) : RowTarget (List Cell) where
  initial := r.initial
  bindRow _ row options content :=
    let (content, outcome) := r.bindRow row options.pattern content
    (content, outcome.mapError .refused)

end RowTarget

/-- Why a result is not bound. -/
inductive ResultFault where
  /-- The result has no row. -/
  | notFound
  | row (fault : BindFault)
  deriving DecidableEq, Repr

/-- A sequence and how many elements it has room for. -/
structure Sequence (α : Type) where
  items : List α
  capacity : Nat
  deriving DecidableEq, Repr

namespace Sequence

variable {α : Type}

def withCapacity (capacity : Nat) : Sequence α := ⟨[], capacity⟩

def length (s : Sequence α) : Nat := s.items.length

/-- The capacity after growing by a half, but at least four. -/
def nextCapacity (capacity : Nat) : Nat :=
  let grown := capacity + capacity / 2
  if grown < 4 then 4 else grown

/-- Makes room for one more element if there is none. -/
def reserve (s : Sequence α) : Sequence α :=
  if s.length = s.capacity then { s with capacity := nextCapacity s.capacity } else s

@[simp] theorem items_reserve (s : Sequence α) : s.reserve.items = s.items := by
  rw [reserve]
  split <;> rfl

def push (s : Sequence α) (x : α) : Sequence α :=
  { s with items := s.items ++ [x] }

@[simp] theorem items_push (s : Sequence α) (x : α) : (s.push x).items = s.items ++ [x] := rfl

@[simp] theorem capacity_push (s : Sequence α) (x : α) : (s.push x).capacity = s.capacity := rfl

end Sequence

/-- What came of binding: the target afterwards, the outcome, and the events. -/
structure Binding (α : Type) where
  target : α
  outcome : Except ResultFault Unit
  log : List LogEvent

namespace Binder

variable {α : Type}

def boundRow (columns : Nat) : LogEvent :=
  ⟨.debug, "bound row", [("columns", String.ofList (natText columns))]⟩

def boundRows (rows : Nat) : LogEvent :=
  ⟨.debug, "bound rows", [("rows", String.ofList (natText rows))]⟩

/-- Binds the first row of a result into a target. -/
def bindInto (t : RowTarget α) (options : BinderOptions) (result : Table) (target : α) : Binding α :=
  match result.rows with
  | [] => ⟨target, .error .notFound, []⟩
  | row :: _ =>
    match t.bindRow result.columns row options target with
    | (target, .ok ()) => ⟨target, .ok (), [boundRow result.columns.length]⟩
    | (target, .error e) => ⟨target, .error (.row e), []⟩

/-- Binds the first row of a result into a new target. -/
def bindOne (t : RowTarget α) (options : BinderOptions) (result : Table) : Binding α :=
  bindInto t options result t.initial

/-- Appends one element per row, up to the first row that fails, whose element is appended as far as
    it was bound. -/
def appendRows (t : RowTarget α) (options : BinderOptions) (columns : List Column) :
    List Row → Sequence α → Sequence α × Except BindFault Unit
  | [], s => (s, .ok ())
  | row :: rows, s =>
    match t.bindRow columns row options t.initial with
    | (x, .ok ()) => appendRows t options columns rows (s.reserve.push x)
    | (x, .error e) => (s.reserve.push x, .error e)

/-- Binds every row of a result onto the end of a sequence. -/
def bindAll (t : RowTarget α) (options : BinderOptions) (result : Table) (s : Sequence α) :
    Binding (Sequence α) :=
  match appendRows t options result.columns result.rows s with
  | (s, .ok ()) => ⟨s, .ok (), [boundRows result.rows.length]⟩
  | (s, .error e) => ⟨s, .error (.row e), []⟩

/-- Binds every row of a result into a new sequence. -/
def collect (t : RowTarget α) (options : BinderOptions) (result : Table) : Binding (Sequence α) :=
  bindAll t options result (.withCapacity 0)

end Binder

end StoreAccess
