/-! Texts as bytes. Writing is the standard encoding; reading accepts every byte sequence and puts a
    replacement character for each maximal part that no character starts with. -/

namespace StoreAccess
namespace Text

/-- The bytes of a text. -/
def utf8 (s : String) : List UInt8 :=
  s.toList.flatMap String.utf8EncodeChar

def replacement : Char := '\ufffd'

/-- Where a reader stands between two bytes: `owed` continuation bytes are missing, the next must lie
    between `low` and `high`, and `value` holds the bits read so far. Nothing is owed between
    characters. -/
structure Utf8State where
  owed : Nat
  low : Nat
  high : Nat
  value : Nat

namespace Utf8State

def start : Utf8State := ⟨0, 0, 0, 0⟩

/-- Reads the first byte of a character. -/
def first (b : Nat) : List Char × Utf8State :=
  if b ≤ 0x7F then ([Char.ofNat b], start)
  else if 0xC2 ≤ b ∧ b ≤ 0xDF then ([], ⟨1, 0x80, 0xBF, b - 0xC0⟩)
  else if b = 0xE0 then ([], ⟨2, 0xA0, 0xBF, 0⟩)
  else if b = 0xED then ([], ⟨2, 0x80, 0x9F, 0xD⟩)
  else if 0xE1 ≤ b ∧ b ≤ 0xEF then ([], ⟨2, 0x80, 0xBF, b - 0xE0⟩)
  else if b = 0xF0 then ([], ⟨3, 0x90, 0xBF, 0⟩)
  else if 0xF1 ≤ b ∧ b ≤ 0xF3 then ([], ⟨3, 0x80, 0xBF, b - 0xF0⟩)
  else if b = 0xF4 then ([], ⟨3, 0x80, 0x8F, 4⟩)
  else ([replacement], start)

/-- Reads one byte: what is finished by it, and where the reader stands then. A byte that does not
    continue the character before it ends that character as unreadable and starts a new one. -/
def step (s : Utf8State) (b : Nat) : List Char × Utf8State :=
  if s.owed = 0 then first b
  else if s.low ≤ b ∧ b ≤ s.high then
    let value := s.value * 64 + (b - 0x80)
    if s.owed = 1 then ([Char.ofNat value], start) else ([], ⟨s.owed - 1, 0x80, 0xBF, value⟩)
  else
    let (out, next) := first b
    (replacement :: out, next)

/-- Reads bytes up to the end of the text. -/
def read (s : Utf8State) : List UInt8 → List Char
  | [] => if s.owed = 0 then [] else [replacement]
  | b :: rest =>
    let (out, next) := s.step b.toNat
    out ++ next.read rest

end Utf8State

/-- The text that bytes stand for, unreadable parts replaced. -/
def ofUtf8 (bytes : List UInt8) : String :=
  String.ofList (Utf8State.start.read bytes)

/-- The text that bytes encode, if they encode one: it is the text whose bytes they are. -/
def ofUtf8? (bytes : List UInt8) : Option String :=
  let s := ofUtf8 bytes
  if utf8 s = bytes then some s else none

end Text
end StoreAccess
