/-! Binary floating-point numbers: a value is a sign, a mantissa and a power of two counted from the
    smallest positive number of the format. Rounding a quotient of natural numbers to nearest, ties
    to even, is the one way finite numbers arise. -/

namespace StoreAccess

/-- A floating-point format: mantissas have `precision` bits, the smallest positive number is
    `2 ^ -scale`, and the greatest power of two above it is `2 ^ maxShift`. -/
structure FloatFormat where
  precision : Nat
  scale : Nat
  maxShift : Nat
  deriving DecidableEq, Repr

namespace FloatFormat

/-- The 64-bit interchange format. -/
def double : FloatFormat := ⟨53, 1074, 2045⟩

/-- The 32-bit interchange format. -/
def single : FloatFormat := ⟨24, 149, 253⟩

/-- The greatest finite mantissa. -/
def maxMantissa (f : FloatFormat) : Nat := Nat.pow 2 f.precision - 1

end FloatFormat

/-- A number of a format; a finite one is `± mantissa * 2 ^ shift / 2 ^ scale`. -/
inductive Binary (f : FloatFormat) where
  | nan
  | infinite (negative : Bool)
  | finite (negative : Bool) (mantissa shift : Nat)
  deriving DecidableEq, Repr

abbrev Double := Binary FloatFormat.double

abbrev Single := Binary FloatFormat.single

/-- The quotient of two natural numbers to the nearest one, a half to the even neighbour. -/
def roundHalfEven (num den : Nat) : Nat :=
  let q := num / den
  let r := num % den
  if 2 * r < den ∨ (2 * r = den ∧ q % 2 = 0) then q else q + 1

namespace Binary

variable {f : FloatFormat}

/-- The mantissa and shift nearest to `num / den`. -/
def nearest (f : FloatFormat) (num den : Nat) : Nat × Nat :=
  let scaled := num * Nat.pow 2 f.scale
  let shift := (scaled / den).log2 + 1 - f.precision
  let mantissa := roundHalfEven scaled (den * Nat.pow 2 shift)
  if mantissa = Nat.pow 2 f.precision then (mantissa / 2, shift + 1) else (mantissa, shift)

/-- The number nearest to `± num / den`, infinite where the format ends. -/
def ofRatio (f : FloatFormat) (negative : Bool) (num den : Nat) : Binary f :=
  let (mantissa, shift) := nearest f num den
  if shift ≤ f.maxShift then finite negative mantissa shift else infinite negative

/-- The number nearest to an integer. -/
def ofInt (f : FloatFormat) (n : Int) : Binary f :=
  ofRatio f (decide (n < 0)) n.natAbs 1

/-- The same number in another format, rounded to nearest. -/
def convert (g : FloatFormat) : Binary f → Binary g
  | nan => nan
  | infinite negative => infinite negative
  | finite negative mantissa shift => ofRatio g negative (mantissa * Nat.pow 2 shift) (Nat.pow 2 f.scale)

def isFinite : Binary f → Bool
  | finite .. => true
  | _ => false

def isInfinite : Binary f → Bool
  | infinite _ => true
  | _ => false

/-- The magnitude of a finite number is at most that of the greatest one of format `g`. -/
def fitsIn (g : FloatFormat) : Binary f → Bool
  | finite _ mantissa shift =>
    decide (mantissa * Nat.pow 2 shift * Nat.pow 2 g.scale ≤
      g.maxMantissa * Nat.pow 2 g.maxShift * Nat.pow 2 f.scale)
  | _ => false

/-- The width of the format's bit pattern. -/
def width (f : FloatFormat) : Nat :=
  f.precision + (f.maxShift + 2).log2 + 1

/-- The bit pattern: sign, exponent field, fraction. A number that is not one has a quiet pattern. -/
def bits : Binary f → Nat
  | nan => (f.maxShift + 2) * Nat.pow 2 (f.precision - 1) + Nat.pow 2 (f.precision - 2)
  | infinite negative => sign negative + (f.maxShift + 2) * Nat.pow 2 (f.precision - 1)
  | finite negative mantissa shift => sign negative + shift * Nat.pow 2 (f.precision - 1) + mantissa
where
  sign (negative : Bool) : Nat := if negative then Nat.pow 2 (width f - 1) else 0

/-- The number of a bit pattern. -/
def ofBits (f : FloatFormat) (n : Nat) : Binary f :=
  let negative := decide (Nat.pow 2 (width f - 1) ≤ n)
  let magnitude := n % Nat.pow 2 (width f - 1)
  let field := magnitude / Nat.pow 2 (f.precision - 1)
  let fraction := magnitude % Nat.pow 2 (f.precision - 1)
  if field = f.maxShift + 2 then
    if fraction = 0 then infinite negative else nan
  else if field = 0 then finite negative fraction 0
  else finite negative (fraction + Nat.pow 2 (f.precision - 1)) (field - 1)

end Binary

end StoreAccess
