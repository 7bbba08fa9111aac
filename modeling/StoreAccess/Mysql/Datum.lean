import StoreAccess.Number.Shortest
import StoreAccess.Text.Utf8
import StoreAccess.Value

/-! Single values as the database server takes and gives them, and their texts. -/

namespace StoreAccess
namespace Mysql

inductive Datum where
  | null
  | bytes (content : List UInt8)
  | int (n : Int)
  | uint (n : Nat)
  | float (x : Single)
  | double (x : Double)
  | date (year month day hour minute second micro : Nat)
  /-- A length of time. -/
  | time (negative : Bool) (days hours minutes seconds micros : Nat)
  deriving DecidableEq, Repr

namespace Datum

/-- The datum of a parameter. -/
def ofValue : Value → Datum
  | .null => null
  | .int n => int n
  | .float x => double x
  | .text s => bytes (Text.utf8 s)

/-- Microseconds after a point, if there are any. -/
def fraction (micro : Nat) : List Char :=
  if micro = 0 then [] else '.' :: padded 6 micro

/-- Hours, minutes and seconds, two digits each and hours as many as they need. -/
def clock (hours minutes seconds : Nat) : List Char :=
  padded 2 hours ++ ':' :: padded 2 minutes ++ ':' :: padded 2 seconds

def dateText (year month day : Nat) : List Char :=
  padded 4 year ++ '-' :: padded 2 month ++ '-' :: padded 2 day

/-- The text of a datum; there is none for nothing. Unreadable bytes are replaced, and the days of a
    length of time are counted as hours. -/
def text? : Datum → Option String
  | null => none
  | bytes content => some (Text.ofUtf8 content)
  | int n => some (String.ofList (intText n))
  | uint n => some (String.ofList (natText n))
  | float x => some (String.ofList x.text)
  | double x => some (String.ofList x.text)
  | date year month day hour minute second micro =>
    some (String.ofList
      (dateText year month day ++ ' ' :: clock hour minute second ++ fraction micro))
  | time negative days hours minutes seconds micros =>
    some (String.ofList
      ((if negative then ['-'] else []) ++ clock (hours + days * 24) minutes seconds
        ++ fraction micros))

end Datum

end Mysql
end StoreAccess
