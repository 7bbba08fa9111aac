import StoreAccess.Calendar.Offset
import StoreAccess.Text.Blank

/-! Date and time patterns. In a pattern a percent sign starts a specifier: a letter, for a number
    with an optional padding mark before it, or one of the longer forms for fractions and offsets. All
    other characters stand for themselves. A pattern is read into items up to the first specifier
    that does not exist. -/

namespace StoreAccess
namespace Pattern

/-- How a number is filled up to its width. -/
inductive Pad where
  | none
  | zero
  | space
  deriving DecidableEq, Repr

/-- The numbers a pattern can ask for. -/
inductive Quantity where
  | year
  | century
  | yearOfCentury
  | isoYear
  | isoYearOfCentury
  | quarter
  | month
  | day
  | weekFromSunday
  | weekFromMonday
  | isoWeek
  | weekdayFromSunday
  | weekdayFromMonday
  | dayOfYear
  | hour
  | hourOfHalf
  | minute
  | second
  | nanosecond
  | timestamp
  deriving DecidableEq, Repr

inductive Item where
  | literal (c : Char)
  /-- A blank; when read, any amount of white space. -/
  | space (c : Char)
  | number (q : Quantity) (pad : Pad)
  | monthName (long : Bool)
  | weekdayName (long : Bool)
  | halfDay (upper : Bool)
  /-- A point and a fraction of a second, in as many digits as stated or in as few as it takes. -/
  | fraction (digits : Option Nat)
  /-- A fraction of a second without its point. -/
  | bareFraction (digits : Nat)
  | zoneName
  | offset (style : OffsetStyle)
  /-- Any form of offset when read; it cannot be written. -/
  | looseOffset
  /-- Date, time and offset in the internet form. -/
  | internet
  /-- A specifier that does not exist. -/
  | broken
  deriving DecidableEq, Repr

namespace Item

def zeros (q : Quantity) : Item := number q .zero

def clock : List Item :=
  [zeros .hour, literal ':', zeros .minute, literal ':', zeros .second]

def clockOfHalf : List Item :=
  [zeros .hourOfHalf, literal ':', zeros .minute, literal ':', zeros .second, space ' ', halfDay true]

def slashDate : List Item :=
  [zeros .month, literal '/', zeros .day, literal '/', zeros .yearOfCentury]

/-- The items of a specifier of one letter. -/
def ofLetter : Char → List Item
  | 'A' => [weekdayName true]
  | 'B' => [monthName true]
  | 'C' => [zeros .century]
  | 'D' => slashDate
  | 'F' => [zeros .year, literal '-', zeros .month, literal '-', zeros .day]
  | 'G' => [zeros .isoYear]
  | 'H' => [zeros .hour]
  | 'I' => [zeros .hourOfHalf]
  | 'M' => [zeros .minute]
  | 'P' => [halfDay false]
  | 'R' => [zeros .hour, literal ':', zeros .minute]
  | 'S' => [zeros .second]
  | 'T' => clock
  | 'U' => [zeros .weekFromSunday]
  | 'V' => [zeros .isoWeek]
  | 'W' => [zeros .weekFromMonday]
  | 'X' => clock
  | 'Y' => [zeros .year]
  | 'Z' => [zoneName]
  | 'a' => [weekdayName false]
  | 'b' => [monthName false]
  | 'c' =>
    [weekdayName false, space ' ', monthName false, space ' ', number .day .space, space ' ']
      ++ clock ++ [space ' ', zeros .year]
  | 'd' => [zeros .day]
  | 'e' => [number .day .space]
  | 'f' => [zeros .nanosecond]
  | 'g' => [zeros .isoYearOfCentury]
  | 'h' => [monthName false]
  | 'j' => [zeros .dayOfYear]
  | 'k' => [number .hour .space]
  | 'l' => [number .hourOfHalf .space]
  | 'm' => [zeros .month]
  | 'n' => [space '\n']
  | 'p' => [halfDay true]
  | 'q' => [number .quarter .none]
  | 'r' => clockOfHalf
  | 's' => [number .timestamp .none]
  | 't' => [space '\t']
  | 'u' => [number .weekdayFromMonday .none]
  | 'v' =>
    [number .day .space, literal '-', monthName false, literal '-', zeros .year]
  | 'w' => [number .weekdayFromSunday .none]
  | 'x' => slashDate
  | 'y' => [zeros .yearOfCentury]
  | 'z' => [offset .plain]
  | '+' => [internet]
  | '%' => [literal '%']
  | _ => [broken]

/-- A padding mark applies to a specifier that is one number and to nothing else. -/
def repad (pad : Pad) : List Item → List Item
  | [number q _] => [number q pad]
  | _ => [broken]

end Item

/-- What has been read of a specifier. -/
inductive Awaiting where
  /-- Nothing: the next character is not in a specifier. -/
  | text
  /-- The percent sign. -/
  | specifier
  /-- The percent sign and a padding mark. -/
  | padded (pad : Pad)
  /-- The percent sign and the mark for the loose form. -/
  | loose
  /-- The percent sign and some colons. -/
  | colons (count : Nat)
  /-- The percent sign and a point. -/
  | point
  /-- All of a fraction's specifier but its letter. -/
  | fraction (item : Item)
  deriving DecidableEq, Repr

namespace Awaiting

def padOf? : Char → Option Pad
  | '-' => some .none
  | '0' => some .zero
  | '_' => some .space
  | _ => none

def fractionDigits? : Char → Option Nat
  | '3' => some 3
  | '6' => some 6
  | '9' => some 9
  | _ => none

/-- Reads one character: the items it completes, and what is awaited then. -/
def step (a : Awaiting) (c : Char) : List Item × Awaiting :=
  match a with
  | text =>
    if c = '%' then ([], specifier)
    else if Text.isBlank c then ([.space c], text)
    else ([.literal c], text)
  | specifier =>
    match padOf? c, fractionDigits? c with
    | some pad, _ => ([], padded pad)
    | none, some n => ([], fraction (.bareFraction n))
    | none, none =>
      if c = '#' then ([], loose)
      else if c = ':' then ([], colons 1)
      else if c = '.' then ([], point)
      else (Item.ofLetter c, text)
  | padded pad => (Item.repad pad (Item.ofLetter c), text)
  | loose => (if c = 'z' then [.looseOffset] else [.broken], text)
  | colons n =>
    if c = 'z' then
      ([if n = 1 then .offset .colon else if n = 2 then .offset .seconds else .offset .hours], text)
    else if c = ':' ∧ n < 3 then ([], colons (n + 1))
    else ([.broken], text)
  | point =>
    if c = 'f' then ([.fraction none], text)
    else match fractionDigits? c with
      | some n => ([], fraction (.fraction (some n)))
      | none => ([.broken], text)
  | fraction item => (if c = 'f' then [item] else [.broken], text)

end Awaiting

/-- The items of a pattern of which `a` has been read already. -/
def itemsFrom (a : Awaiting) : List Char → List Item
  | [] => if a = .text then [] else [.broken]
  | c :: rest =>
    let (items, next) := a.step c
    items ++ itemsFrom next rest

/-- The items of a pattern. What follows a broken item is never looked at. -/
def items (cs : List Char) : List Item :=
  itemsFrom .text cs

end Pattern
end StoreAccess
