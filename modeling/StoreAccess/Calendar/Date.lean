/-! Dates of the proleptic Gregorian calendar, counted in days from 1970-01-01, and the weeks that a
    year is divided into. -/

namespace StoreAccess

structure Date where
  year : Int
  month : Nat
  day : Nat
  deriving DecidableEq, Repr

namespace Date

def isLeap (year : Int) : Bool :=
  year % 4 = 0 && (year % 100 != 0 || year % 400 = 0)

def daysInMonth (year : Int) (month : Nat) : Nat :=
  if month = 2 then (if isLeap year then 29 else 28)
  else if month = 4 ∨ month = 6 ∨ month = 9 ∨ month = 11 then 30
  else 31

def daysInYear (year : Int) : Nat :=
  if isLeap year then 366 else 365

/-- The years that dates are made for. -/
def firstYear : Int := -262143

def lastYear : Int := 262142

def yearInRange (year : Int) : Bool :=
  decide (firstYear ≤ year) && decide (year ≤ lastYear)

/-- The date names a day of the calendar. -/
def isValid (d : Date) : Bool :=
  yearInRange d.year && decide (1 ≤ d.month) && decide (d.month ≤ 12) && decide (1 ≤ d.day)
    && decide (d.day ≤ daysInMonth d.year d.month)

/-- The date of these parts, if there is such a day. -/
def ofParts? (year : Int) (month day : Nat) : Option Date :=
  let d : Date := ⟨year, month, day⟩
  if d.isValid then some d else none

/-- Days since 1970-01-01. Years are taken to begin in March, so that the leap day comes last. -/
def dayNumber (d : Date) : Int :=
  let year := if d.month ≤ 2 then d.year - 1 else d.year
  let month : Nat := (d.month + 9) % 12
  365 * year + year / 4 - year / 100 + year / 400 + ((153 * month + 2) / 5 : Nat) + d.day - 719469

/-- The date a number of days after 1970-01-01, found within its cycle of 400 years. -/
def ofDayNumber (n : Int) : Date :=
  let days := n + 719468
  let cycle := days / 146097
  let inCycle := (days % 146097).toNat
  let yearInCycle := (inCycle - inCycle / 1460 + inCycle / 36524 - inCycle / 146096) / 365
  let inYear := inCycle - (365 * yearInCycle + yearInCycle / 4 - yearInCycle / 100)
  let month := (5 * inYear + 2) / 153
  let day := inYear - (153 * month + 2) / 5 + 1
  let civilMonth := if month < 10 then month + 3 else month - 9
  let year := yearInCycle + cycle * 400
  ⟨if civilMonth ≤ 2 then year + 1 else year, civilMonth, day⟩

/-- The day of the week, from 0 for Monday to 6 for Sunday. -/
def weekdayOf (dayNumber : Int) : Nat :=
  ((dayNumber + 3) % 7).toNat

def weekday (d : Date) : Nat :=
  weekdayOf d.dayNumber

/-- The day within the year, from 1. -/
def dayOfYear (d : Date) : Nat :=
  (d.dayNumber - dayNumber ⟨d.year, 1, 1⟩).toNat + 1

/-- The day of a year by its number, if the year has it. -/
def ofDayOfYear? (year : Int) (day : Nat) : Option Date :=
  if yearInRange year && decide (1 ≤ day) && decide (day ≤ daysInYear year) then
    some (ofDayNumber (dayNumber ⟨year, 1, 1⟩ + (day - 1 : Nat)))
  else none

def quarter (d : Date) : Nat :=
  (d.month - 1) / 3 + 1

/-- How many days lie from weekday `first` on to weekday `w`. -/
def daysSince (w first : Nat) : Nat :=
  (w + 7 - first) % 7

/-- The week within the year, when weeks begin on weekday `first`; days before the first such day are
    in week 0. -/
def weekFrom (first : Nat) (d : Date) : Nat :=
  (d.dayOfYear + 6 - daysSince d.weekday first) / 7

/-- How many weeks the year has that are counted by the year most of their days lie in. -/
def isoWeeksIn (year : Int) : Nat :=
  let first := weekday ⟨year, 1, 1⟩
  if first = 3 ∨ (first = 2 ∧ isLeap year) then 53 else 52

/-- The year and week that a date is in when a week belongs to the year most of its days lie in. -/
def isoWeek (d : Date) : Int × Nat :=
  let week : Int := ((d.dayOfYear : Int) - (d.weekday + 1) + 10) / 7
  if week < 1 then (d.year - 1, isoWeeksIn (d.year - 1))
  else if week > isoWeeksIn d.year then (d.year + 1, 1)
  else (d.year, week.toNat)

/-- The day `weekday` of such a week, if the year has that week. -/
def ofIsoWeek? (year : Int) (week weekday : Nat) : Option Date :=
  if week = 0 ∨ isoWeeksIn year < week then none
  else
    let fourth := dayNumber ⟨year, 1, 4⟩
    let d := ofDayNumber (fourth - weekdayOf fourth + 7 * (week - 1 : Nat) + weekday)
    if yearInRange d.year then some d else none

/-- The day `weekday` of a week counted from weekday `first`, if it lies in the year. -/
def ofWeekFrom? (first : Nat) (year : Int) (week weekday : Nat) : Option Date :=
  let start := 1 + daysSince first (Date.weekday ⟨year, 1, 1⟩)
  let day : Int := start + ((week : Int) - 1) * 7 + daysSince weekday first
  if day ≤ 0 then none else ofDayOfYear? year day.toNat

end Date

end StoreAccess
