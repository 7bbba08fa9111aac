import StoreAccess.Calendar.Moment
import StoreAccess.Calendar.Pattern

/-! Writing a time by a pattern. There is no text if the pattern has a broken item, or asks for the
    loose offset, which has no written form. -/

namespace StoreAccess
namespace Pattern

def monthNames : List String :=
  ["January", "February", "March", "April", "May", "June", "July", "August", "September", "October",
   "November", "December"]

/-- Names of the days of the week, from Monday. -/
def weekdayNames : List String :=
  ["Monday", "Tuesday", "Wednesday", "Thursday", "Friday", "Saturday", "Sunday"]

/-- The name at a position, cut to three letters if it is not to be long. -/
def nameAt (names : List String) (long : Bool) (i : Nat) : List Char :=
  let name := (names[i]?.getD "").toList
  if long then name else name.take 3

/-- A number of two digits at most. -/
def twoDigits (pad : Pad) (n : Nat) : List Char :=
  if n < 10 then
    match pad with
    | .none => natText n
    | .zero => '0' :: natText n
    | .space => ' ' :: natText n
  else natText n

/-- A number filled up to a width, with a sign if it is negative or one is asked for. -/
def wideNumber (pad : Pad) (width : Nat) (signed : Bool) (n : Int) : List Char :=
  let sign := if n < 0 then ['-'] else if signed then ['+'] else []
  let width := if signed then width + 1 else width
  let ds := natText n.natAbs
  let fill := width - sign.length - ds.length
  match pad with
  | .none => sign ++ ds
  | .zero => sign ++ List.replicate fill '0' ++ ds
  | .space => List.replicate fill ' ' ++ sign ++ ds

def yearNumber (pad : Pad) (year : Int) : List Char :=
  wideNumber pad 4 (decide (year < 0 ∨ 10000 ≤ year)) year

/-- The hour on a clock of twelve hours. -/
def hourOfHalf (hour : Nat) : Nat :=
  if hour % 12 = 0 then 12 else hour % 12

namespace Quantity

/-- Writes a quantity of the time that a clock `offset` seconds ahead shows. -/
def write (t : CivilTime) (offset : Int) (pad : Pad) : Quantity → List Char
  | year => yearNumber pad t.date.year
  | century => twoDigits pad (t.date.year / 100).toNat
  | yearOfCentury => twoDigits pad (t.date.year % 100).toNat
  | isoYear => yearNumber pad t.date.isoWeek.1
  | isoYearOfCentury => twoDigits pad (t.date.isoWeek.1 % 100).toNat
  | quarter => natText t.date.quarter
  | month => twoDigits pad t.date.month
  | day => twoDigits pad t.date.day
  | weekFromSunday => twoDigits pad (t.date.weekFrom 6)
  | weekFromMonday => twoDigits pad (t.date.weekFrom 0)
  | isoWeek => twoDigits pad t.date.isoWeek.2
  | weekdayFromSunday => natText ((t.date.weekday + 1) % 7)
  | weekdayFromMonday => natText (t.date.weekday + 1)
  | dayOfYear => wideNumber pad 3 false t.date.dayOfYear
  | hour => twoDigits pad t.hour
  | hourOfHalf => twoDigits pad (Pattern.hourOfHalf t.hour)
  | minute => twoDigits pad t.minute
  | second => twoDigits pad t.shownSecond
  | nanosecond => wideNumber pad 9 false t.shownNanos
  | timestamp => wideNumber pad 9 false (t.moment offset).seconds

end Quantity

/-- The first `digits` of the nine digits of a fraction. -/
def fractionDigits (digits nanos : Nat) : List Char :=
  padded digits (nanos / Nat.pow 10 (9 - digits))

namespace Item

def write? (t : CivilTime) (offset : Int) : Item → Option (List Char)
  | literal c => some [c]
  | space c => some [c]
  | number q pad => some (q.write t offset pad)
  | monthName long => some (nameAt monthNames long (t.date.month - 1))
  | weekdayName long => some (nameAt weekdayNames long t.date.weekday)
  | halfDay upper =>
    some (match decide (t.hour < 12), upper with
      | true, true => ['A', 'M']
      | true, false => ['a', 'm']
      | false, true => ['P', 'M']
      | false, false => ['p', 'm'])
  | fraction none => some (CivilTime.fractionText t.shownNanos)
  | fraction (some n) => some ('.' :: fractionDigits n t.shownNanos)
  | bareFraction n => some (fractionDigits n t.shownNanos)
  | zoneName => some (OffsetStyle.colon.write offset)
  | .offset style => some (style.write offset)
  | looseOffset => none
  | internet => some (t.internetText offset)
  | broken => none

end Item

/-- The text of a time by a pattern, as a clock `offset` seconds ahead shows it. -/
def write? (pattern : List Char) (t : CivilTime) (offset : Int) : Option (List Char) :=
  ((items pattern).mapM (Item.write? t offset)).map List.flatten

end Pattern
end StoreAccess
