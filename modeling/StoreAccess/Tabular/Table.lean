import StoreAccess.Data.Dict
import StoreAccess.Tabular.Column

/-! Results in table form: columns in order, and rows that give each column a text or nothing. -/

namespace StoreAccess

/-- A row; a column it does not carry and a column without a value read the same. -/
structure Row where
  cells : Dict (Option String)
  deriving DecidableEq, Repr

namespace Row

def empty : Row := ⟨.empty⟩

def set (r : Row) (column : String) (value : Option String) : Row :=
  ⟨r.cells.insert column value⟩

/-- The text under a column, if the row carries the column and it has one. -/
def get? (r : Row) (column : String) : Option String :=
  (r.cells.get? column).join

def contains (r : Row) (column : String) : Bool :=
  r.cells.contains column

def size (r : Row) : Nat :=
  r.cells.size

/-- The row of a list of pairs; of two with one column the later counts. -/
def ofList (pairs : List (String × Option String)) : Row :=
  ⟨.ofList pairs⟩

/-- The same columns with the same values. -/
def same (a b : Row) : Bool :=
  a.cells.same b.cells

end Row

structure Table where
  columns : List Column
  rows : List Row
  deriving DecidableEq, Repr

namespace Table

def empty : Table := ⟨[], []⟩

def push (t : Table) (r : Row) : Table :=
  { t with rows := t.rows ++ [r] }

/-- The first column of a name. -/
def column? (t : Table) (name : String) : Option Column :=
  t.columns.find? fun c => c.name == name

end Table

end StoreAccess
