import StoreAccess.Number.IntType

/-! Integers as text. A literal is an optional sign, a minus only for signed types, and one or more
    decimal digits. It is read digit by digit, so a value that leaves the range is noticed before
    whatever follows it. -/

namespace StoreAccess
namespace IntLiteral

/-- Why a text is no value of an integer type. -/
inductive Fault where
  | malformed
  | outOfRange
  deriving DecidableEq, Repr

/-- The value of a decimal digit. -/
def digit? (c : Char) : Option Nat :=
  if '0' ≤ c ∧ c ≤ '9' then some (c.toNat - 48) else none

/-- Reads digits onto `value`, which may not exceed `limit`. -/
def readDigits (limit : Nat) (value : Nat) : List Char → Except Fault Nat
  | [] => .ok value
  | c :: rest =>
    match digit? c with
    | none => .error .malformed
    | some d =>
      let next := value * 10 + d
      if next ≤ limit then readDigits limit next rest else .error .outOfRange

/-- Reads one or more digits. -/
def readMagnitude (limit : Nat) (cs : List Char) : Except Fault Nat :=
  if cs.isEmpty then .error .malformed else readDigits limit 0 cs

/-- Reads a literal of type `t`. -/
def read (t : IntType) : List Char → Except Fault Int
  | '+' :: rest => (readMagnitude t.greatest.toNat rest).map Int.ofNat
  | '-' :: rest =>
    if t.isSigned then (readMagnitude (-t.lowest).toNat rest).map fun n => -(Int.ofNat n)
    else .error .malformed
  | cs => (readMagnitude t.greatest.toNat cs).map Int.ofNat

/-- Reads a literal in the widest type of the signedness of `t`, then narrows it to `t`. -/
def readNarrow (t : IntType) (cs : List Char) : Except Fault Int := do
  let n ← read t.widest cs
  if t.holds n then .ok n else .error .outOfRange

end IntLiteral

/-- The decimal digits of a natural number. -/
def natText (n : Nat) : List Char :=
  Nat.toDigits 10 n

/-- A number in decimal with a minus sign if it is negative. -/
def intText (n : Int) : List Char :=
  if n < 0 then '-' :: natText n.natAbs else natText n.natAbs

/-- The digits of a number, filled up with zeros on the left to a width. -/
def padded (width n : Nat) : List Char :=
  let ds := natText n
  List.replicate (width - ds.length) '0' ++ ds

end StoreAccess
