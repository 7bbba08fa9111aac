import StoreAccess.Number.Binary
import StoreAccess.Number.IntLiteral

/-! The text of a floating-point number: the fewest decimal digits that read back as the same number,
    nearest to it among those, written without an exponent. -/

namespace StoreAccess
namespace Shortest

/-- The reals that round to one number, as numerators over `den`; the ends belong to it iff `closed`. -/
structure Interval where
  low : Nat
  value : Nat
  high : Nat
  den : Nat
  closed : Bool

namespace Interval

/-- The interval of `mantissa * 2 ^ shift / 2 ^ scale`. Below a power of two the neighbours stand
    twice as close. -/
def ofFinite (f : FloatFormat) (mantissa shift : Nat) : Interval :=
  let unit := Nat.pow 2 shift
  let below := if mantissa = Nat.pow 2 (f.precision - 1) ∧ 0 < shift then 1 else 2
  ⟨(4 * mantissa - below) * unit, 4 * mantissa * unit, (4 * mantissa + 2) * unit, 4 * Nat.pow 2 f.scale,
    mantissa % 2 = 0⟩

/-- The fraction `num / den` lies in the interval. -/
def contains (i : Interval) (num den : Nat) : Bool :=
  let x := num * i.den
  let low := i.low * den
  let high := i.high * den
  if i.closed then decide (low ≤ x) && decide (x ≤ high) else decide (low < x) && decide (x < high)

/-- The place of the first digit: the value lies between `10 ^ (place - 1)` and `10 ^ place`. -/
def place (i : Interval) : Int :=
  (natText (i.value * Nat.pow 10 400 / i.den)).length - 400

/-- The value's neighbour on the grid of `10 ^ exponent` that lies in the interval, the nearer one if
    both do and the upper one of two equally near. -/
def onGrid? (i : Interval) (exponent : Int) : Option Nat :=
  let up := Nat.pow 10 exponent.toNat
  let down := Nat.pow 10 (-exponent).toNat
  let num := i.value * down
  let den := i.den * up
  let q := num / den
  let r := num % den
  let lower := i.contains (q * up) down
  let upper := i.contains ((q + 1) * up) down
  if lower && (!upper || decide (2 * r < den)) then some q
  else if upper then some (q + 1)
  else none

/-- Searches grids of more and more digits. -/
def search (i : Interval) (place : Int) : (fuel : Nat) → (count : Nat) → Nat × Int
  | 0, count => ((i.onGrid? (place - count)).getD 0, place - count)
  | fuel + 1, count =>
    match i.onGrid? (place - count) with
    | some n => (n, place - count)
    | none => search i place fuel (count + 1)

end Interval

/-- The digits and exponent of a positive number: `digits * 10 ^ exponent`. -/
def digits (f : FloatFormat) (mantissa shift : Nat) : Nat × Int :=
  let i := Interval.ofFinite f mantissa shift
  i.search i.place 20 1

/-- Writes `digits * 10 ^ exponent` by position. -/
def positional (digits : Nat) (exponent : Int) : List Char :=
  let ds := natText digits
  if 0 ≤ exponent then ds ++ List.replicate exponent.toNat '0'
  else
    let places := (-exponent).toNat
    if places < ds.length then ds.take (ds.length - places) ++ '.' :: ds.drop (ds.length - places)
    else '0' :: '.' :: List.replicate (places - ds.length) '0' ++ ds

end Shortest

/-- The text of a number. -/
def Binary.text {f : FloatFormat} : Binary f → List Char
  | .nan => ['N', 'a', 'N']
  | .infinite negative => sign negative ['i', 'n', 'f']
  | .finite negative mantissa shift =>
    sign negative <|
      if mantissa = 0 then ['0']
      else
        let (ds, e) := Shortest.digits f mantissa shift
        Shortest.positional ds e
where
  sign (negative : Bool) (cs : List Char) : List Char := if negative then '-' :: cs else cs

end StoreAccess
