import StoreAccess.Calendar.Clues
import StoreAccess.Calendar.Pattern
import StoreAccess.Calendar.PatternText
import StoreAccess.Number.FloatLiteral

/-! Reading a time by a pattern: each item takes what it can from the front of the text and leaves its
    clues; the text must end with the pattern. -/

namespace StoreAccess
namespace Pattern

open FloatLiteral (isDigit digitsValue)

/-- Takes digits off the front, at least one and at most `width` if a width is given, as long as they
    stay within 64 signed bits. -/
def takeNumber? (width : Option Nat) (cs : List Char) : Option (Nat × List Char) :=
  let ds := (width.elim cs (cs.take ·)).takeWhile isDigit
  if !ds.isEmpty && decide (digitsValue ds < Nat.pow 2 63) then some (digitsValue ds, cs.drop ds.length)
  else none

/-- Takes exactly `width` digits off the front. -/
def takeDigits? (width : Nat) (cs : List Char) : Option (Nat × List Char) :=
  let ds := (cs.take width).takeWhile isDigit
  if ds.length = width then some (digitsValue ds, cs.drop width) else none

/-- Takes a character off the front. -/
def takeChar? (c : Char) : List Char → Option (List Char)
  | d :: rest => if c = d then some rest else none
  | [] => none

/-- Takes a fraction of a second off the front, as nanoseconds; digits after the ninth are dropped. -/
def takeFraction? (cs : List Char) : Option (Nat × List Char) :=
  let ds := cs.takeWhile isDigit
  let kept := ds.take 9
  if ds.isEmpty then none
  else some (digitsValue kept * Nat.pow 10 (9 - kept.length), cs.drop ds.length)

/-- Takes what stands between a date and a time of day in the internet form off the front. -/
def takeDivider? : List Char → Option (List Char)
  | c :: rest => if c = 't' ∨ c = 'T' ∨ c = ' ' then some rest else none
  | [] => none

/-- The text starts with the other one, whatever the case of its letters. -/
def startsWithFold (name cs : List Char) : Bool :=
  Text.lowerAscii (cs.take name.length) = Text.lowerAscii name

/-- Takes a name off the front: its first three letters, and the rest of it if the long form is wanted
    and stands there. -/
def takeName? (names : List String) (long : Bool) (cs : List Char) : Option (Nat × List Char) :=
  (names.findIdx? fun name => startsWithFold (name.toList.take 3) cs).map fun i =>
    let name := (names[i]?.getD "").toList
    if long && startsWithFold name cs then (i, cs.drop name.length) else (i, cs.drop 3)

def skipColonsAndBlanks (cs : List Char) : List Char :=
  cs.dropWhile fun c => c = ':' || Text.isBlank c

/-- What an offset may look like beyond sign, hours and minutes. -/
structure OffsetForm where
  /-- What may stand between hours and minutes. -/
  separator? : List Char → Option (List Char)
  /-- The letter for universal time may stand for the offset. -/
  allowZulu : Bool
  /-- The minutes may be missing. -/
  allowHours : Bool

namespace OffsetForm

/-- The form of numeric offsets in patterns. -/
def numeric : OffsetForm := ⟨fun cs => some (skipColonsAndBlanks cs), false, false⟩

/-- Any form. -/
def loose : OffsetForm := ⟨fun cs => some (skipColonsAndBlanks cs), true, true⟩

/-- The numeric form or the letter for universal time. -/
def numericOrZulu : OffsetForm := ⟨fun cs => some (skipColonsAndBlanks cs), true, false⟩

/-- The form of the internet: one colon, or the letter. -/
def internet : OffsetForm := ⟨takeChar? ':', true, false⟩

/-- Takes sign, hours and minutes off the front; a minus may also be the mathematical sign. -/
def takeSigned? (form : OffsetForm) : List Char → Option (Int × List Char)
  | [] => none
  | c :: cs => do
    let negative ← if c = '+' then some false else if c = '-' ∨ c = '\u2212' then some true else none
    let (hours, cs) ← takeDigits? 2 cs
    let cs ← form.separator? cs
    let (minutes, cs) ← match takeDigits? 2 cs with
      | some (minutes, rest) => if minutes < 60 then some (minutes, rest) else none
      | none => if form.allowHours && cs.isEmpty then some (0, cs) else none
    let size : Int := hours * 3600 + minutes * 60
    some (if negative then -size else size, cs)

/-- Takes an offset in seconds off the front. -/
def take? (form : OffsetForm) : List Char → Option (Int × List Char)
  | [] => none
  | c :: cs => if form.allowZulu && (c = 'Z' || c = 'z') then some (0, cs) else form.takeSigned? (c :: cs)

end OffsetForm

namespace Quantity

/-- How many digits a quantity has at most. -/
def readWidth : Quantity → Option Nat
  | year | isoYear => some 4
  | quarter | weekdayFromSunday | weekdayFromMonday => some 1
  | dayOfYear => some 3
  | nanosecond => some 9
  | timestamp => none
  | _ => some 2

/-- Years may have a sign, and then any number of digits. -/
def isSigned : Quantity → Bool
  | year | isoYear => true
  | _ => false

/-- Takes the value of a quantity off the front. -/
def take? (q : Quantity) (cs : List Char) : Option (Int × List Char) :=
  match q.isSigned, cs with
  | true, '-' :: rest => (takeNumber? none rest).map fun (n, rest) => (-(n : Int), rest)
  | true, '+' :: rest => (takeNumber? none rest).map fun (n, rest) => ((n : Int), rest)
  | _, _ => (takeNumber? q.readWidth cs).map fun (n, rest) => ((n : Int), rest)

/-- Adds the clues that a value of a quantity gives. -/
def clues? (q : Quantity) (n : Int) (known : Clues) : Option Clues :=
  match q with
  | year => known.add? .year n
  | century => known.add? .century n
  | yearOfCentury => known.add? .yearOfCentury n
  | isoYear => known.add? .isoYear n
  | isoYearOfCentury => known.add? .isoYearOfCentury n
  | quarter => known.add? .quarter n
  | month => known.add? .month n
  | day => known.add? .day n
  | weekFromSunday => known.add? .weekFromSunday n
  | weekFromMonday => known.add? .weekFromMonday n
  | isoWeek => known.add? .isoWeek n
  | weekdayFromSunday => if n ≤ 6 then known.add? .weekday ((n + 6) % 7) else none
  | weekdayFromMonday => known.add? .weekday (n - 1)
  | dayOfYear => known.add? .dayOfYear n
  | hour => known.addHour? n
  | hourOfHalf => if 1 ≤ n ∧ n ≤ 12 then known.add? .hourOfHalf (n % 12) else none
  | minute => known.add? .minute n
  | second => known.add? .second n
  | nanosecond => known.add? .nanosecond n
  | timestamp => known.add? .timestamp n

end Quantity

/-- Reads a quantity, past any white space. -/
def readQuantity? (q : Quantity) (known : Clues) (cs : List Char) : Option (Clues × List Char) := do
  let (n, rest) ← q.take? (Text.trimStart cs)
  some (← q.clues? n known, rest)

/-- Reads an offset into a clue. -/
def readOffset? (form : OffsetForm) (known : Clues) (cs : List Char) : Option (Clues × List Char) := do
  let (n, rest) ← form.take? (Text.trimStart cs)
  some (← known.add? .offset n, rest)

/-- Reads a point and a fraction if there is a point. -/
def readFraction? (digits : Option Nat) (known : Clues) :
    List Char → Option (Clues × List Char)
  | '.' :: cs => do
    let (n, rest) ← match digits with
      | none => takeFraction? cs
      | some d => (takeDigits? d cs).map fun (n, rest) => (n * Nat.pow 10 (9 - d), rest)
    some (← known.add? .nanosecond n, rest)
  | cs => some (known, cs)

/-- Reads the items one after the other with `read`. -/
def readAll {ι : Type} (read : ι → Clues → List Char → Option (Clues × List Char)) :
    List ι → Clues → List Char → Option (Clues × List Char)
  | [], known, cs => some (known, cs)
  | item :: items, known, cs => do
    let (known, cs) ← read item known cs
    readAll read items known cs

/-- Reads quantities with a mark between any two of them. -/
def readMarked? (mark : Char) : List Quantity → Clues → List Char → Option (Clues × List Char)
  | [], known, cs => some (known, cs)
  | [q], known, cs => readQuantity? q known cs
  | q :: qs, known, cs => do
    let (known, cs) ← readQuantity? q known cs
    let cs ← takeChar? mark (Text.trimStart cs)
    readMarked? mark qs known cs

/-- Reads the internet form with freedom in white space and widths. -/
def readInternet? (known : Clues) (cs : List Char) : Option (Clues × List Char) := do
  let (known, cs) ← readMarked? '-' [.year, .month, .day] known cs
  let cs ← takeDivider? cs
  let (known, cs) ← readMarked? ':' [.hour, .minute, .second] known cs
  let (known, cs) ← readFraction? none known cs
  let cs := Text.trimStart cs
  if startsWithFold ['u', 't', 'c'] cs then some (← known.add? .offset 0, cs.drop 3)
  else do
    let (n, rest) ← OffsetForm.numericOrZulu.take? cs
    some (← known.add? .offset n, rest)

namespace Item

/-- Reads one item: the clues with its own added, and what is left of the text. -/
def read? (item : Item) (known : Clues) (cs : List Char) : Option (Clues × List Char) :=
  match item with
  | literal c => (takeChar? c cs).map fun rest => (known, rest)
  | space _ => some (known, Text.trimStart cs)
  | number q _ => readQuantity? q known cs
  | monthName long => do
    let (i, rest) ← takeName? monthNames long cs
    some (← known.add? .month (i + 1), rest)
  | weekdayName long => do
    let (i, rest) ← takeName? weekdayNames long cs
    some (← known.add? .weekday i, rest)
  | halfDay _ =>
    if startsWithFold ['a', 'm'] cs then (known.add? .half 0).map fun known => (known, cs.drop 2)
    else if startsWithFold ['p', 'm'] cs then (known.add? .half 1).map fun known => (known, cs.drop 2)
    else none
  | fraction digits => readFraction? digits known cs
  | bareFraction digits => do
    let (n, rest) ← takeDigits? digits cs
    some (← known.add? .nanosecond (n * Nat.pow 10 (9 - digits)), rest)
  | zoneName => some (known, cs.dropWhile fun c => !Text.isBlank c)
  | .offset _ => readOffset? .numeric known cs
  | looseOffset => readOffset? .loose known cs
  | internet => readInternet? known cs
  | broken => none

end Item

/-- The civil time that a text gives by a pattern. An offset in the text is read and left out of
    account. -/
def read? (pattern cs : List Char) : Option CivilTime :=
  match readAll Item.read? (items pattern) .empty cs with
  | some (known, []) => known.resolve?
  | _ => none

end Pattern

/-- Takes a date of four, two and two digits off the front. -/
def Internet.takeDate? (cs : List Char) : Option (Date × List Char) := do
  let (year, cs) ← Pattern.takeDigits? 4 cs
  let cs ← Pattern.takeChar? '-' cs
  let (month, cs) ← Pattern.takeDigits? 2 cs
  let cs ← Pattern.takeChar? '-' cs
  let (day, cs) ← Pattern.takeDigits? 2 cs
  some (← Date.ofParts? year month day, cs)

/-- Takes hour, minute and second off the front, of two digits each. -/
def Internet.takeClock? (cs : List Char) : Option ((Nat × Nat × Nat) × List Char) := do
  let (hour, cs) ← Pattern.takeDigits? 2 cs
  let cs ← Pattern.takeChar? ':' cs
  let (minute, cs) ← Pattern.takeDigits? 2 cs
  let cs ← Pattern.takeChar? ':' cs
  let (second, cs) ← Pattern.takeDigits? 2 cs
  some ((hour, minute, second), cs)

/-- Takes a fraction of a second off the front, if there is a point. -/
def Internet.takeFraction? : List Char → Option (Nat × List Char)
  | '.' :: rest => Pattern.takeFraction? rest
  | cs => some (0, cs)

/-- The time of these parts, if a clock shows it. The sixtieth second is a leap second. -/
def Internet.civil? (date : Date) (hour minute second nanos : Nat) : Option CivilTime :=
  if hour < 24 ∧ minute < 60 ∧ second ≤ 60 then
    if second = 60 then some ⟨date, hour, minute, 59, nanos + 1000000000⟩
    else some ⟨date, hour, minute, second, nanos⟩
  else none

/-- Reads the internet form of a time: the civil time and the offset it is given at, which is less than a day. -/
def Internet.read? (cs : List Char) : Option (CivilTime × Int) := do
  let (date, cs) ← takeDate? cs
  let cs ← Pattern.takeDivider? cs
  let ((hour, minute, second), cs) ← takeClock? cs
  let (nanos, cs) ← takeFraction? cs
  let (offset, rest) ← Pattern.OffsetForm.internet.take? cs
  let t ← civil? date hour minute second nanos
  if rest.isEmpty && decide (offset.natAbs < 86400) then some (t, offset) else none

end StoreAccess
