import StoreAccess.Data.Json
import StoreAccess.Number.Shortest

/-! Decoded values: what map targets hold and what statements take as parameters. -/

namespace StoreAccess

inductive Value where
  | null
  | int (n : Int)
  | float (x : Double)
  | text (s : String)
  deriving DecidableEq, Repr

namespace Value

def isNull : Value → Bool
  | null => true
  | _ => false

def asInt? : Value → Option Int
  | int n => some n
  | _ => none

/-- The number as a floating-point one; integers are rounded to the nearest. -/
def asFloat? : Value → Option Double
  | float x => some x
  | int n => some (.ofInt .double n)
  | _ => none

def asText? : Value → Option String
  | text s => some s
  | _ => none

def display : Value → String
  | null => "NULL"
  | int n => String.ofList (intText n)
  | float x => String.ofList x.text
  | text s => s

/-- Reads exchanged data: a number is an integer if it is whole and fits 64 signed bits. -/
def ofJson? : Json → Option Value
  | .null => some null
  | .int n => some (if -Int.pow 2 63 ≤ n ∧ n < Int.pow 2 63 then int n else float (.ofInt .double n))
  | .float x => some (float x)
  | .str s => some (text s)
  | _ => none

/-- Writes exchanged data, which has no infinite numbers. -/
def toJson : Value → Json
  | null => .null
  | int n => .int n
  | float x => if x.isFinite then .float x else .null
  | text s => .str s

end Value

end StoreAccess
