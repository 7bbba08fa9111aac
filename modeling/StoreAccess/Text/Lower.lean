import StoreAccess.Text.LowerTable

/-! Lower-casing by the full rules of the standard. All characters map on their own except the
    capital sigma, which takes its final form at the end of a word, and the capital I with a dot,
    which becomes two characters. -/

namespace StoreAccess
namespace Text

def isAscii (c : Char) : Bool :=
  c.toNat < 128

/-- Lower-cases `A` to `Z` and nothing else. -/
def lowerAsciiChar (c : Char) : Char :=
  if 'A' ≤ c ∧ c ≤ 'Z' then Char.ofNat (c.toNat + 32) else c

def lowerAscii (cs : List Char) : List Char :=
  cs.map lowerAsciiChar

/-- The lower-case form of a character taken on its own. -/
def lowerChar (c : Char) : List Char :=
  if isAscii c then [lowerAsciiChar c]
  else if c = '\u0130' then ['i', '\u0307']
  else [((lowerRuns.findSome? fun r => r.image? c.toNat).map Char.ofNat).getD c]

/-- Past the characters that case decisions ignore stands one that has case. -/
def meetsCased (cs : List Char) : Bool :=
  match cs.dropWhile caseIgnorable.contains with
  | [] => false
  | c :: _ => cased.contains c

/-- A sigma ends a word if a letter comes before it and none after it. -/
def endsWord (before after : List Char) : Bool :=
  meetsCased before && !meetsCased after

/-- Lower-cases a text; `before` holds what precedes it, last character first. -/
def lowerAfter (before : List Char) : List Char → List Char
  | [] => []
  | c :: rest =>
    (if c = 'Σ' then (if endsWord before rest then ['ς'] else ['σ']) else lowerChar c)
      ++ lowerAfter (c :: before) rest

/-- The lower-case form of a text. -/
def lower (cs : List Char) : List Char :=
  lowerAfter [] cs

end Text
end StoreAccess
