import StoreAccess.Text.CharSet

/-! White space: the characters with the White_Space property, and the two cuts the library makes at
    them, trimming a text and taking its first word. -/

namespace StoreAccess
namespace Text

/-- Characters with the White_Space property. -/
def blanks : CharSet :=
  ⟨[(0x9, 0xD), (0x20, 0x20), (0x85, 0x85), (0xA0, 0xA0), (0x1680, 0x1680), (0x2000, 0x200A),
    (0x2028, 0x2029), (0x202F, 0x202F), (0x205F, 0x205F), (0x3000, 0x3000)]⟩

def isBlank (c : Char) : Bool :=
  blanks.contains c

def trimStart (cs : List Char) : List Char :=
  cs.dropWhile isBlank

def trimEnd (cs : List Char) : List Char :=
  (cs.reverse.dropWhile isBlank).reverse

def trim (cs : List Char) : List Char :=
  trimEnd (trimStart cs)

/-- The first run of characters that are not blank; empty if there is none. -/
def firstWord (cs : List Char) : List Char :=
  (trimStart cs).takeWhile fun c => !isBlank c

end Text
end StoreAccess
