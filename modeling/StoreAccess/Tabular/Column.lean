import StoreAccess.Text.Blank
import StoreAccess.Text.Lower

/-! Columns of a result, and the families their declared types fall into. -/

namespace StoreAccess

/-- What the values of a column are read as. -/
inductive Family where
  | integer
  | float
  | boolean
  | datetime
  | text
  deriving DecidableEq, Repr

namespace Family

def name : Family → String
  | integer => "integer"
  | float => "float"
  | boolean => "boolean"
  | datetime => "datetime"
  | text => "text"

/-- The family of a type's bare name; every name that is not listed is text. -/
def ofBareName (name : String) : Family :=
  if ["integer", "int", "tinyint", "smallint", "mediumint", "bigint"].contains name then integer
  else if ["double", "float", "decimal", "real", "numeric"].contains name then float
  else if ["bool", "boolean"].contains name then boolean
  else if ["datetime", "timestamp"].contains name then datetime
  else text

/-- The bare name in a declared type: the first word before any parenthesis, in lower case. -/
def bareName (declared : List Char) : List Char :=
  Text.firstWord ((Text.lowerAscii (Text.trim declared)).takeWhile (· ≠ '('))

/-- The family of a declared type. -/
def ofTypeName (declared : String) : Family :=
  ofBareName (String.ofList (bareName declared.toList))

end Family

structure Column where
  name : String
  typeName : String
  deriving DecidableEq, Repr

namespace Column

def family (c : Column) : Family :=
  Family.ofTypeName c.typeName

end Column

end StoreAccess
