import StoreAccess.Mysql.Datum
import StoreAccess.Tabular.Table

/-! What a query yields, as the server describes it, and the table of it. -/

namespace StoreAccess
namespace Mysql

/-- A column as the server describes it: the type is a code, and the flags are bits. -/
structure ColumnInfo where
  name : String
  code : Nat
  flags : Nat
  deriving DecidableEq, Repr

namespace ColumnInfo

/-- The declared type of a type code; types that are not listed are texts. -/
def typeName (code : Nat) : String :=
  match code with
  | 1 => "TINYINT"
  | 2 => "SMALLINT"
  | 9 => "MEDIUMINT"
  | 3 => "INT"
  | 8 => "BIGINT"
  | 4 => "FLOAT"
  | 5 => "DOUBLE"
  | 0 | 246 => "DECIMAL"
  | 12 | 18 => "DATETIME"
  | 7 | 17 => "TIMESTAMP"
  | 10 => "DATE"
  | 11 => "TIME"
  | 245 => "JSON"
  | 252 => "BLOB"
  | _ => "VARCHAR"

/-- The numbers of the column have no sign. -/
def isUnsigned (c : ColumnInfo) : Bool := c.flags / 32 % 2 = 1

def column (c : ColumnInfo) : Column :=
  ⟨c.name, if c.isUnsigned then typeName c.code ++ " UNSIGNED" else typeName c.code⟩

end ColumnInfo

namespace ResultSet

/-- The row of the data for some columns. Where data are missing the column has no value; of two columns
    with one name the later counts. -/
def row (columns : List ColumnInfo) (data : List Datum) : Row :=
  .ofList (columns.zipIdx.map fun p => (p.1.name, (data[p.2]?).bind Datum.text?))

def table (columns : List ColumnInfo) (rows : List (List Datum)) : Table :=
  ⟨columns.map ColumnInfo.column, rows.map (row columns)⟩

end ResultSet

end Mysql
end StoreAccess
