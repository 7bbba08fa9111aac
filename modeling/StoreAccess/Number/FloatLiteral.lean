import StoreAccess.Number.Binary
import StoreAccess.Number.IntLiteral
import StoreAccess.Text.Lower

/-! Floating-point numbers as text. A literal is an optional sign followed by a name for infinity or
    for the number that is none, in any case, or by decimal digits with at most one point among or
    beside them and an optional exponent. Its value is the nearest number of the format. -/

namespace StoreAccess

/-- What a literal says before it is rounded: `digits * 10 ^ exponent`, or one of the names. -/
inductive FloatLiteral where
  | nan
  | infinite (negative : Bool)
  | decimal (negative : Bool) (digits : Nat) (exponent : Int)
  deriving DecidableEq, Repr

namespace FloatLiteral

def isDigit (c : Char) : Bool :=
  (IntLiteral.digit? c).isSome

/-- The number that a run of digits writes. -/
def digitsValue (ds : List Char) : Nat :=
  ds.foldl (fun n c => n * 10 + (IntLiteral.digit? c).getD 0) 0

/-- Takes a sign off a text: whether it is a minus, and what follows it. -/
def takeSign : List Char → Bool × List Char
  | '-' :: rest => (true, rest)
  | '+' :: rest => (false, rest)
  | cs => (false, cs)

/-- An exponent part: none, or the letter, an optional sign and digits up to the end. -/
def exponent? : List Char → Option Int
  | [] => some 0
  | c :: rest =>
    if c = 'e' ∨ c = 'E' then
      let (negative, ds) := takeSign rest
      if !ds.isEmpty && ds.all isDigit then
        let n : Int := digitsValue ds
        some (if negative then -n else n)
      else none
    else none

/-- A decimal without its sign. -/
def unsignedDecimal? (negative : Bool) (cs : List Char) : Option FloatLiteral :=
  let whole := cs.takeWhile isDigit
  let (fraction, rest) := match cs.dropWhile isDigit with
    | '.' :: more => (more.takeWhile isDigit, more.dropWhile isDigit)
    | more => ([], more)
  if whole.isEmpty && fraction.isEmpty then none
  else (exponent? rest).map fun e =>
    decimal negative (digitsValue (whole ++ fraction)) (e - fraction.length)

/-- The names of the numbers that are not finite. -/
def named? (negative : Bool) (cs : List Char) : Option FloatLiteral :=
  let name := Text.lowerAscii cs
  if name = ['n', 'a', 'n'] then some nan
  else if name = ['i', 'n', 'f'] ∨ name = ['i', 'n', 'f', 'i', 'n', 'i', 't', 'y'] then
    some (infinite negative)
  else none

/-- Reads a literal. -/
def read? (cs : List Char) : Option FloatLiteral :=
  let (negative, rest) := takeSign cs
  (unsignedDecimal? negative rest).orElse fun _ => named? negative rest

/-- Powers of ten beyond this lie outside every format, on either side. -/
def reach : Int := 400

/-- The number nearest to a literal. Exponents that no format reaches are settled without computing
    their power of ten. -/
def value (f : FloatFormat) : FloatLiteral → Binary f
  | nan => .nan
  | infinite negative => .infinite negative
  | decimal negative digits exponent =>
    if digits = 0 then .finite negative 0 0
    else if reach < exponent then .infinite negative
    else if exponent + (digits.log2 + 1) < -reach then .finite negative 0 0
    else if 0 ≤ exponent then .ofRatio f negative (digits * Nat.pow 10 exponent.toNat) 1
    else .ofRatio f negative digits (Nat.pow 10 (-exponent).toNat)

end FloatLiteral

/-- The number a text writes in the 64-bit format. -/
def Double.read? (cs : List Char) : Option Double :=
  (FloatLiteral.read? cs).map (FloatLiteral.value .double)

end StoreAccess
