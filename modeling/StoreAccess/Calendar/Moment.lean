import StoreAccess.Calendar.Date
import StoreAccess.Calendar.Offset

/-! Points in time, counted from the start of 1970, and their civil form on a clock. A leap second is
    the second before it with a thousand million nanoseconds or more. -/

namespace StoreAccess

structure Moment where
  seconds : Int
  nanos : Nat
  deriving DecidableEq, Repr

/-- A date with a time of day. -/
structure CivilTime where
  date : Date
  hour : Nat
  minute : Nat
  second : Nat
  nanos : Nat
  deriving DecidableEq, Repr

namespace Moment

def epoch : Moment := ⟨0, 0⟩

/-- What a clock shows that runs `offset` seconds ahead. -/
def civil (m : Moment) (offset : Int) : CivilTime :=
  let shown := m.seconds + offset
  let ofDay := (shown % 86400).toNat
  ⟨Date.ofDayNumber (shown / 86400), ofDay / 3600, ofDay / 60 % 60, ofDay % 60, m.nanos⟩

end Moment

namespace CivilTime

/-- The moment at which a clock that runs `offset` seconds ahead shows this time. -/
def moment (t : CivilTime) (offset : Int) : Moment :=
  ⟨t.date.dayNumber * 86400 + (t.hour * 3600 + t.minute * 60 + t.second : Nat) - offset, t.nanos⟩

/-- The second as shown: a leap second is the sixtieth. -/
def shownSecond (t : CivilTime) : Nat :=
  t.second + t.nanos / 1000000000

/-- The nanoseconds within the second shown. -/
def shownNanos (t : CivilTime) : Nat :=
  t.nanos % 1000000000

/-- A year of four digits, with a sign if it takes more or is before year 0. -/
def yearText (year : Int) : List Char :=
  if 0 ≤ year ∧ year ≤ 9999 then padded 4 year.toNat
  else (if year < 0 then '-' else '+') :: padded 4 year.natAbs

def dateText (d : Date) : List Char :=
  yearText d.year ++ '-' :: padded 2 d.month ++ '-' :: padded 2 d.day

/-- The fraction of a second in three, six or nine digits, as few as it takes; none if it is zero. -/
def fractionText (nanos : Nat) : List Char :=
  if nanos = 0 then []
  else if nanos % 1000000 = 0 then '.' :: padded 3 (nanos / 1000000)
  else if nanos % 1000 = 0 then '.' :: padded 6 (nanos / 1000)
  else '.' :: padded 9 nanos

def clockText (t : CivilTime) : List Char :=
  padded 2 t.hour ++ ':' :: padded 2 t.minute ++ ':' :: padded 2 t.shownSecond
    ++ fractionText t.shownNanos

/-- Date and time with a blank between them. -/
def text (t : CivilTime) : List Char :=
  dateText t.date ++ ' ' :: clockText t

end CivilTime

namespace CivilTime

/-- Date and time in the internet form, with the offset they are shown at. -/
def internetText (t : CivilTime) (offset : Int) : List Char :=
  dateText t.date ++ 'T' :: clockText t ++ OffsetStyle.colon.write offset

end CivilTime

namespace Moment

/-- The moment in the internet form at universal time. -/
def internetText (m : Moment) : List Char :=
  (m.civil 0).internetText 0

/-- The moment in plain form at universal time. -/
def text (m : Moment) : List Char :=
  (m.civil 0).text

end Moment

end StoreAccess
