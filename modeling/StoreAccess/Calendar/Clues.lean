import StoreAccess.Calendar.Moment

/-! What a text says about a time, one clue at a time, and the time that all clues together fix. Clues
    may repeat each other and may be more than enough, but they may not disagree. -/

namespace StoreAccess

inductive Clue where
  | year
  | century
  | yearOfCentury
  | isoYear
  | isoCentury
  | isoYearOfCentury
  | quarter
  | month
  | day
  | weekFromSunday
  | weekFromMonday
  | isoWeek
  /-- From 0 for Monday. -/
  | weekday
  | dayOfYear
  /-- The half of the day, 0 before noon. -/
  | half
  /-- The hour within its half, from 0. -/
  | hourOfHalf
  | minute
  | second
  | nanosecond
  | timestamp
  | offset
  deriving DecidableEq, Repr

namespace Clue

/-- The values a clue can have. -/
def admits (clue : Clue) (n : Int) : Bool :=
  let between (low high : Int) := decide (low ≤ n) && decide (n ≤ high)
  match clue with
  | year | isoYear | offset => between (-Int.pow 2 31) (Int.pow 2 31 - 1)
  | century | isoCentury => between 0 (Int.pow 2 31 - 1)
  | yearOfCentury | isoYearOfCentury => between 0 99
  | quarter => between 1 4
  | month => between 1 12
  | day => between 1 31
  | weekFromSunday | weekFromMonday => between 0 53
  | isoWeek => between 1 53
  | weekday => between 0 6
  | dayOfYear => between 1 366
  | half => between 0 1
  | hourOfHalf => between 0 11
  | minute => between 0 59
  | second => between 0 60
  | nanosecond => between 0 999999999
  | timestamp => true

end Clue

/-- Why clues fix no time. -/
inductive Misfit where
  /-- Something needed is not known. -/
  | incomplete
  /-- What is known holds of no time. -/
  | contradictory
  deriving DecidableEq, Repr

/-- The clues found so far. -/
structure Clues where
  known : List (Clue × Int)
  deriving DecidableEq, Repr

namespace Clues

def empty : Clues := ⟨[]⟩

def get? (cs : Clues) (clue : Clue) : Option Int :=
  cs.known.lookup clue

/-- Adds a clue, unless its value is impossible or another one is known. -/
def add? (cs : Clues) (clue : Clue) (n : Int) : Option Clues :=
  if clue.admits n then
    match cs.get? clue with
    | none => some ⟨(clue, n) :: cs.known⟩
    | some old => if old = n then some cs else none
  else none

/-- Adds an hour of the day. -/
def addHour? (cs : Clues) (hour : Int) : Option Clues := do
  if 0 ≤ hour ∧ hour < 24 then
    let cs ← cs.add? .half (hour / 12)
    cs.add? .hourOfHalf (hour % 12)
  else none

/-- The clue, if it is known, has this value. -/
def agrees (cs : Clues) (clue : Clue) (n : Int) : Bool :=
  (cs.get? clue).all (· = n)

/-- A year from its full form, its century and its place in the century. The last alone means the
    hundred years from 1970. -/
def yearFrom (full century rest : Option Int) : Except Misfit (Option Int) :=
  match full, century, rest with
  | full, none, none => .ok full
  | some y, q, r =>
    if y < 0 then .error .contradictory
    else if q.getD (y / 100) = y / 100 ∧ r.getD (y % 100) = y % 100 then .ok (some y)
    else .error .contradictory
  | none, some q, some r =>
    if q * 100 + r < Int.pow 2 31 then .ok (some (q * 100 + r)) else .error .contradictory
  | none, none, some r => .ok (some (if r < 70 then r + 2000 else r + 1900))
  | none, some _, none => .error .incomplete

/-- The clues on year, month and day hold of the date. -/
def fitsCivil (cs : Clues) (d : Date) : Bool :=
  cs.agrees .year d.year && fitsParts && cs.agrees .month d.month && cs.agrees .day d.day
where
  fitsParts : Bool :=
    if 0 ≤ d.year then cs.agrees .century (d.year / 100) && cs.agrees .yearOfCentury (d.year % 100)
    else (cs.get? .century).isNone && (cs.get? .yearOfCentury).isNone

/-- The clues on the week and its year hold of the date. -/
def fitsIsoWeek (cs : Clues) (d : Date) : Bool :=
  let (year, week) := d.isoWeek
  cs.agrees .isoYear year && fitsParts year && cs.agrees .isoWeek week && cs.agrees .weekday d.weekday
where
  fitsParts (year : Int) : Bool :=
    if 0 ≤ year then cs.agrees .isoCentury (year / 100) && cs.agrees .isoYearOfCentury (year % 100)
    else (cs.get? .isoCentury).isNone && (cs.get? .isoYearOfCentury).isNone

/-- The clues on the day and the week of the year hold of the date. -/
def fitsDayOfYear (cs : Clues) (d : Date) : Bool :=
  cs.agrees .dayOfYear d.dayOfYear && cs.agrees .weekFromSunday (d.weekFrom 6)
    && cs.agrees .weekFromMonday (d.weekFrom 0)

/-- The first date that a sufficient set of clues names, before the others are compared with it. -/
def candidate (cs : Clues) : Except Misfit Date := do
  let year ← yearFrom (cs.get? .year) (cs.get? .century) (cs.get? .yearOfCentury)
  let isoYear ← yearFrom (cs.get? .isoYear) (cs.get? .isoCentury) (cs.get? .isoYearOfCentury)
  let found (d : Option Date) : Except Misfit Date := (d.elim (.error .contradictory) .ok)
  match year, cs.get? .month, cs.get? .day with
  | some y, some m, some d => found (Date.ofParts? y m.toNat d.toNat)
  | _, _, _ =>
  match year, cs.get? .dayOfYear with
  | some y, some n => found (Date.ofDayOfYear? y n.toNat)
  | _, _ =>
  match year, cs.get? .weekFromSunday, cs.get? .weekday with
  | some y, some w, some d => found (Date.ofWeekFrom? 6 y w.toNat d.toNat)
  | _, _, _ =>
  match year, cs.get? .weekFromMonday, cs.get? .weekday with
  | some y, some w, some d => found (Date.ofWeekFrom? 0 y w.toNat d.toNat)
  | _, _, _ =>
  match isoYear, cs.get? .isoWeek, cs.get? .weekday with
  | some y, some w, some d => found (Date.ofIsoWeek? y w.toNat d.toNat)
  | _, _, _ => .error .incomplete

/-- The date that the clues fix. -/
def date (cs : Clues) : Except Misfit Date := do
  let d ← cs.candidate
  if cs.fitsCivil d && cs.fitsIsoWeek d && cs.fitsDayOfYear d && cs.agrees .quarter d.quarter then
    .ok d
  else .error .contradictory

/-- Hour, minute, second and nanoseconds that the clues fix. Seconds may be left out, but not below a
    fraction of them; the sixtieth second is a leap second. -/
def clock (cs : Clues) : Except Misfit (Nat × Nat × Nat × Nat) := do
  let need (clue : Clue) : Except Misfit Nat :=
    (cs.get? clue).elim (.error .incomplete) fun n => .ok n.toNat
  let half ← need .half
  let hour ← need .hourOfHalf
  let minute ← need .minute
  let second := ((cs.get? .second).getD 0).toNat
  let fraction ← match cs.get? .nanosecond, cs.get? .second with
    | some n, some _ => .ok n.toNat
    | some _, none => .error .incomplete
    | none, _ => .ok 0
  if second = 60 then .ok (half * 12 + hour, minute, 59, fraction + 1000000000)
  else .ok (half * 12 + hour, minute, second, fraction)

/-- The time that the clues on date and clock fix. -/
def civil (cs : Clues) : Except Misfit CivilTime := do
  let d ← cs.date
  let (hour, minute, second, nanos) ← cs.clock
  .ok ⟨d, hour, minute, second, nanos⟩

/-- The clues with those of a timestamp added, so that the others can be compared with it. A leap
    second is the one before or the one at the timestamp. -/
def withTimestamp? (cs : Clues) (timestamp : Int) : Option Clues := do
  let shown := (Moment.mk timestamp 0).civil 0
  if !Date.yearInRange shown.date.year then none
  if cs.get? .second = some 60 then
    if shown.second = 59 then complete shown cs
    else if shown.second = 0 then complete ((Moment.mk (timestamp - 1) 0).civil 0) cs
    else none
  else complete shown (← cs.add? .second shown.second)
where
  complete (shown : CivilTime) (cs : Clues) : Option Clues := do
    let cs ← cs.add? .year shown.date.year
    let cs ← cs.add? .dayOfYear shown.date.dayOfYear
    let cs ← cs.addHour? shown.hour
    cs.add? .minute shown.minute

/-- The civil time that all clues fix. Without date and clock a timestamp supplies them; beside them
    it must agree, to within a leap second. -/
def resolve? (cs : Clues) : Option CivilTime :=
  match cs.date, cs.clock with
  | .ok d, .ok (hour, minute, second, nanos) =>
    let t : CivilTime := ⟨d, hour, minute, second, nanos⟩
    let seconds := (t.moment 0).seconds
    match cs.get? .timestamp with
    | none => some t
    | some given =>
      if given = seconds ∨ (1000000000 ≤ nanos ∧ given = seconds + 1) then some t else none
  | .error .contradictory, _ => none
  | _, .error .contradictory => none
  | _, _ => do
    let timestamp ← cs.get? .timestamp
    let cs ← cs.withTimestamp? timestamp
    cs.civil.toOption

end Clues

end StoreAccess
