/-! Hexadecimal digits, always in lower case. -/

namespace StoreAccess
namespace Text

def hexDigit (n : Nat) : Char :=
  if n < 10 then Char.ofNat (48 + n) else Char.ofNat (87 + n)

/-- The lowest `width` hexadecimal digits of a number. -/
def hexFixed : (width : Nat) → Nat → List Char
  | 0, _ => []
  | width + 1, n => hexFixed width (n / 16) ++ [hexDigit (n % 16)]

/-- The number of hexadecimal digits of a number; zero has one. -/
def hexWidth (n : Nat) : Nat :=
  n.log2 / 4 + 1

/-- A number in as few hexadecimal digits as it takes. -/
def hex (n : Nat) : List Char :=
  hexFixed (hexWidth n) n

/-- The value of a hexadecimal digit of either case. -/
def hexValue? (c : Char) : Option Nat :=
  if '0' ≤ c ∧ c ≤ '9' then some (c.toNat - 48)
  else if 'a' ≤ c ∧ c ≤ 'f' then some (c.toNat - 87)
  else if 'A' ≤ c ∧ c ≤ 'F' then some (c.toNat - 55)
  else none

/-- Bytes as two digits each. -/
def hexBytes (bytes : List UInt8) : List Char :=
  bytes.flatMap fun b => hexFixed 2 b.toNat

end Text
end StoreAccess
