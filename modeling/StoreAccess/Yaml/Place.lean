/-! A place in a text: what is left of it, and the line and column where that begins. -/

namespace StoreAccess
namespace Yaml

structure Place where
  rest : List Char
  /-- How many characters stand before the place. -/
  index : Nat
  line : Nat
  column : Nat
  deriving DecidableEq, Repr

def isBlank (c : Char) : Bool := c = ' ' || c = '\t'

/-- Characters that end a line. -/
def isBreak (c : Char) : Bool :=
  c = '\n' || c = '\r' || c = '\u0085' || c = '\u2028' || c = '\u2029'

/-- The text begins with a blank or a line break, or is at its end. -/
def endsWord : List Char → Bool
  | [] => true
  | c :: _ => isBlank c || isBreak c

/-- The text is at the end of a line. -/
def endsLine : List Char → Bool
  | [] => true
  | c :: _ => isBreak c

/-- A letter, digit, underscore or hyphen. -/
def isWordChar (c : Char) : Bool := c.isAlphanum || c = '_' || c = '-'

/-- Characters that a text may hold. -/
def isAllowed (c : Char) : Bool :=
  let n := c.toNat
  n = 0x9 || n = 0xA || n = 0xD || (0x20 ≤ n && n ≤ 0x7E) || n = 0x85 || (0xA0 ≤ n && n ≤ 0xD7FF)
    || (0xE000 ≤ n && n ≤ 0xFFFD && n != 0xFEFF) || 0x10000 ≤ n

namespace Place

def ofText (cs : List Char) : Place := ⟨cs, 0, 0, 0⟩

/-- Passes a number of characters, none of which ends a line. -/
def skip (p : Place) (n : Nat) : Place :=
  ⟨p.rest.drop n, p.index + n, p.line, p.column + n⟩

/-- Passes a line break, if there is one. A carriage return and a line feed are one break. -/
def skipBreak (p : Place) : Place :=
  match p.rest with
  | '\r' :: '\n' :: rest => ⟨rest, p.index + 2, p.line + 1, 0⟩
  | c :: rest => if isBreak c then ⟨rest, p.index + 1, p.line + 1, 0⟩ else p
  | [] => p

/-- The text that a line break counts as: a line feed, except for the two separators that stand for
    themselves. -/
def breakText (p : Place) : List Char :=
  match p.rest with
  | c :: _ => if c = '\u2028' || c = '\u2029' then [c] else if isBreak c then ['\n'] else []
  | [] => []

/-- Passes the characters that satisfy a condition. -/
def skipWhile (p : Place) (f : Char → Bool) : Place :=
  p.skip (p.rest.takeWhile f).length

/-- The place is at a line of three equal characters that parts documents. -/
def atMark (p : Place) (c : Char) : Bool :=
  p.column = 0 && p.rest.take 3 = [c, c, c] && endsWord (p.rest.drop 3)

/-- The place is at the beginning or at the end of a document. -/
def atDocumentMark (p : Place) : Bool :=
  p.atMark '-' || p.atMark '.'

end Place

end Yaml
end StoreAccess
