/-! The integer types a field can have, with their ranges. -/

namespace StoreAccess

inductive IntType where
  | i8 | i16 | i32 | i64 | isize | u8 | u16 | u32 | u64 | usize
  deriving DecidableEq, Repr

namespace IntType

def isSigned : IntType → Bool
  | i8 | i16 | i32 | i64 | isize => true
  | u8 | u16 | u32 | u64 | usize => false

/-- The width in bits; the two machine-sized types are 64 bits wide. -/
def bits : IntType → Nat
  | i8 | u8 => 8
  | i16 | u16 => 16
  | i32 | u32 => 32
  | i64 | u64 | isize | usize => 64

/-- The least value of the type. -/
def lowest (t : IntType) : Int :=
  if t.isSigned then -Int.pow 2 (t.bits - 1) else 0

/-- The greatest value of the type. -/
def greatest (t : IntType) : Int :=
  if t.isSigned then Int.pow 2 (t.bits - 1) - 1 else Int.pow 2 t.bits - 1

def holds (t : IntType) (n : Int) : Bool :=
  decide (t.lowest ≤ n) && decide (n ≤ t.greatest)

def name : IntType → String
  | i8 => "i8"
  | i16 => "i16"
  | i32 => "i32"
  | i64 => "i64"
  | isize => "isize"
  | u8 => "u8"
  | u16 => "u16"
  | u32 => "u32"
  | u64 => "u64"
  | usize => "usize"

/-- The widest type of the same signedness, in which a literal is read before it is narrowed. -/
def widest (t : IntType) : IntType :=
  if t.isSigned then i64 else u64

def all : List IntType :=
  [i8, i16, i32, i64, isize, u8, u16, u32, u64, usize]

end IntType

end StoreAccess
