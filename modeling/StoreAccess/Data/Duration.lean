import StoreAccess.Number.IntLiteral
import StoreAccess.Text.Blank

/-! Lengths of time. People write them as numbers with units, one after the other, as in `1h 30m`; a
    number may have a fraction. They are written back with the greatest units first. -/

namespace StoreAccess

structure Duration where
  nanos : Nat
  deriving DecidableEq, Repr

namespace Duration

def zero : Duration := ⟨0⟩

def ofSeconds (s : Nat) : Duration := ⟨s * 1000000000⟩

def ofMillis (ms : Nat) : Duration := ⟨ms * 1000000⟩

def isZero (d : Duration) : Bool := d.nanos = 0

def seconds (d : Duration) : Nat := d.nanos / 1000000000

/-- The whole milliseconds. -/
def millis (d : Duration) : Nat := d.nanos / 1000000

/-- The nanoseconds beyond whole seconds. -/
def subsecond (d : Duration) : Nat := d.nanos % 1000000000

/-- Numbers in the text, and the seconds of a duration, fit 64 bits. -/
def limit : Nat := Nat.pow 2 64

inductive DurationUnit where
  | nanosecond
  | microsecond
  | millisecond
  | second
  | minute
  | hour
  | day
  | week
  | month
  | year
  deriving DecidableEq, Repr

namespace DurationUnit

def names : List (String × DurationUnit) :=
  [("nanos", nanosecond), ("nsec", nanosecond), ("ns", nanosecond),
   ("usec", microsecond), ("us", microsecond), ("µs", microsecond),
   ("millis", millisecond), ("msec", millisecond), ("ms", millisecond),
   ("seconds", second), ("second", second), ("secs", second), ("sec", second), ("s", second),
   ("minutes", minute), ("minute", minute), ("min", minute), ("mins", minute), ("m", minute),
   ("hours", hour), ("hour", hour), ("hr", hour), ("hrs", hour), ("h", hour),
   ("days", day), ("day", day), ("d", day),
   ("weeks", week), ("week", week), ("wk", week), ("wks", week), ("w", week),
   ("months", month), ("month", month), ("M", month),
   ("years", year), ("year", year), ("yr", year), ("yrs", year), ("y", year)]

def ofName? (name : List Char) : Option DurationUnit :=
  names.lookup (String.ofList name)

/-- The size of a unit: in nanoseconds if it is shorter than a second, else in seconds. A month is
    30.44 days and a year 365.25. -/
def size : DurationUnit → Nat
  | nanosecond => 1
  | microsecond => 1000
  | millisecond => 1000000
  | second => 1
  | minute => 60
  | hour => 3600
  | day => 86400
  | week => 604800
  | month => 2630016
  | year => 31557600

def isSubsecond : DurationUnit → Bool
  | nanosecond | microsecond | millisecond => true
  | _ => false

/-- The size in which a fraction of the unit is counted, and whether that is nanoseconds: fractions of
    a minute or less are exact to the nanosecond, those of longer units to the second. -/
def fractionSize : DurationUnit → Nat × Bool
  | second => (1000000000, true)
  | minute => (60000000000, true)
  | u => (u.size, u.isSubsecond)

end DurationUnit

/-- Adds an amount counted in nanoseconds or in seconds. -/
def add? (d : Duration) (amount : Nat) (inNanos : Bool) : Option Duration :=
  let total := d.nanos + if inNanos then amount else amount * 1000000000
  if amount < limit ∧ (!inNanos ∨ d.subsecond + amount < limit) ∧ total / 1000000000 < limit then
    some ⟨total⟩
  else none

/-- A fraction, as digits over a power of ten. -/
structure Fraction where
  numerator : Nat
  denominator : Nat
  deriving DecidableEq, Repr

/-- Adds a number of units and a fraction of one. -/
def addUnits? (d : Duration) (n : Nat) (fraction : Option Fraction) (name : List Char) :
    Option Duration := do
  let u ← DurationUnit.ofName? name
  let d ← d.add? (n * u.size) u.isSubsecond
  match fraction with
  | none => some d
  | some f =>
    let (size, inNanos) := u.fractionSize
    if f.numerator * size < limit then d.add? (f.numerator * size / f.denominator) inNanos else none

/-- What a reader is in the middle of. -/
inductive Part where
  /-- Between two items, or before the first. -/
  | gap
  | number (n : Nat)
  | fraction (n : Nat) (f : Fraction)
  | unit (n : Nat) (f : Option Fraction) (name : List Char)
  deriving DecidableEq, Repr

def isUnitLetter (c : Char) : Bool :=
  c.isAlpha || c = 'µ'

def grow? (n : Nat) (digit : Nat) : Option Nat :=
  if n * 10 + digit < limit then some (n * 10 + digit) else none

/-- Reads one character onto the items read before. -/
def step? (read : Duration) (part : Part) (c : Char) : Option (Duration × Part) :=
  match part with
  | .gap =>
    match IntLiteral.digit? c with
    | some v => some (read, .number v)
    | none => if Text.isBlank c then some (read, .gap) else none
  | .number n =>
    match IntLiteral.digit? c with
    | some v => (grow? n v).map fun n => (read, .number n)
    | none =>
      if Text.isBlank c then some (read, .number n)
      else if isUnitLetter c then some (read, .unit n none [c])
      else if c = '.' then some (read, .fraction n ⟨0, 1⟩)
      else none
  | .fraction n f =>
    match IntLiteral.digit? c with
    | some v => do
      let numerator ← grow? f.numerator v
      let denominator ← grow? f.denominator 0
      some (read, .fraction n ⟨numerator, denominator⟩)
    | none =>
      if Text.isBlank c then some (read, .fraction n f)
      else if isUnitLetter c ∧ f.denominator ≠ 1 then some (read, .unit n (some f) [c])
      else none
  | .unit n f name =>
    match IntLiteral.digit? c with
    | some v => (read.addUnits? n f name).map fun d => (d, .number v)
    | none =>
      if Text.isBlank c then (read.addUnits? n f name).map fun d => (d, .gap)
      else if isUnitLetter c then some (read, .unit n f (name ++ [c]))
      else none

/-- Reads items up to the end of the text, where none may be unfinished. -/
def readItems? (read : Duration) : Part → List Char → Option Duration
  | .gap, [] => some read
  | .unit n f name, [] => read.addUnits? n f name
  | _, [] => none
  | part, c :: rest =>
    match step? read part c with
    | some (read, part) => readItems? read part rest
    | none => none

/-- Reads a duration: at least one item, or a bare zero. -/
def read? (cs : List Char) : Option Duration :=
  if cs = ['0'] then some zero
  else if (Text.trimStart cs).isEmpty then none
  else readItems? zero .gap cs

/-- An item with a unit that has a plural, unless it is zero. -/
def pluralItem (name : String) (n : Nat) : List (List Char) :=
  if n = 0 then [] else [natText n ++ name.toList ++ if n = 1 then [] else ['s']]

/-- An item with a short unit, unless it is zero. -/
def item (name : String) (n : Nat) : List (List Char) :=
  if n = 0 then [] else [natText n ++ name.toList]

/-- The text of a duration. -/
def text (d : Duration) : List Char :=
  let secs := d.seconds
  let inYear := secs % 31557600
  let inMonth := inYear % 2630016
  let inDay := inMonth % 86400
  let nanos := d.subsecond
  let items :=
    pluralItem "year" (secs / 31557600) ++ pluralItem "month" (inYear / 2630016)
      ++ pluralItem "day" (inMonth / 86400) ++ item "h" (inDay / 3600) ++ item "m" (inDay % 3600 / 60)
      ++ item "s" (inDay % 60) ++ item "ms" (nanos / 1000000) ++ item "us" (nanos / 1000 % 1000)
      ++ item "ns" (nanos % 1000)
  if items.isEmpty then ['0', 's'] else (items.intersperse [' ']).flatten

/-- Drops zeros at the end. -/
def dropZeros (ds : List Char) : List Char :=
  (ds.reverse.dropWhile (· = '0')).reverse

/-- A decimal number with its fraction cut after the last digit that is not zero. -/
def decimalText (whole fraction width : Nat) : List Char :=
  let ds := dropZeros (padded width fraction)
  natText whole ++ if ds.isEmpty then [] else '.' :: ds

/-- The text of a duration in a dump: one decimal number in the greatest unit up to seconds. -/
def dump (d : Duration) : List Char :=
  let nanos := d.subsecond
  if 0 < d.seconds then decimalText d.seconds nanos 9 ++ ['s']
  else if 1000000 ≤ nanos then decimalText (nanos / 1000000) (nanos % 1000000) 6 ++ ['m', 's']
  else if 1000 ≤ nanos then decimalText (nanos / 1000) (nanos % 1000) 3 ++ ['µ', 's']
  else natText nanos ++ ['n', 's']

end Duration

end StoreAccess
