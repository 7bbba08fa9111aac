import StoreAccess.Text.Blank

/-! Tokens of type texts. Tokens are written with a blank between any two of them, but none inside
    parentheses and brackets. In types every operator stands alone (two references are two marks); in the
    length of an array, which is an expression, two marks may make one operator. -/

namespace StoreAccess

inductive TypeToken where
  /-- A name or keyword. -/
  | word (text : List Char)
  /-- A lifetime, with the mark it starts with. -/
  | lifetime (text : List Char)
  /-- A number or a quoted literal. -/
  | literal (text : List Char)
  /-- Punctuation. -/
  | mark (text : List Char)
  | opens (c : Char)
  | closes (c : Char)
  deriving DecidableEq, Repr

namespace TypeToken

def isWordStart (c : Char) : Bool :=
  c.isAlpha || c = '_' || decide (128 ≤ c.toNat)

def isWordPart (c : Char) : Bool :=
  isWordStart c || c.isDigit

def isOpening (c : Char) : Bool :=
  c = '(' || c = '[' || c = '\x7b'

def isClosing (c : Char) : Bool :=
  c = ')' || c = ']' || c = '\x7d'

/-- Punctuation of more than one character. -/
def longMarks : List (List Char) :=
  [['.', '.', '.'], ['.', '.', '='], [':', ':'], ['-', '>'], ['=', '>'], ['.', '.']]

def isMark (c : Char) : Bool :=
  ['!', '#', '$', '%', '&', '*', '+', ',', '-', '.', '/', ':', ';', '<', '=', '>', '?', '@', '^', '|',
    '~'].contains c

/-- The rest of a quoted literal up to and with its closing mark. -/
def quotedRest (mark : Char) : List Char → Option (List Char × List Char)
  | [] => none
  | '\\' :: c :: rest => (quotedRest mark rest).map fun (inside, rest) => ('\\' :: c :: inside, rest)
  | c :: rest =>
    if c = mark then some ([c], rest)
    else (quotedRest mark rest).map fun (inside, rest) => (c :: inside, rest)

/-- Takes one token off a text that does not start with a blank. -/
def next? : List Char → Option (TypeToken × List Char)
  | [] => none
  | 'r' :: '#' :: c :: rest =>
    if isWordStart c then
      some (word ('r' :: '#' :: c :: rest.takeWhile isWordPart), rest.dropWhile isWordPart)
    else some (word ['r'], '#' :: c :: rest)
  | 'b' :: '\'' :: rest =>
    (quotedRest '\'' rest).map fun (inside, rest) => (literal ('b' :: '\'' :: inside), rest)
  | 'b' :: '"' :: rest =>
    (quotedRest '"' rest).map fun (inside, rest) => (literal ('b' :: '"' :: inside), rest)
  | c :: rest =>
    if isWordStart c then some (word (c :: rest.takeWhile isWordPart), rest.dropWhile isWordPart)
    else if c.isDigit then
      some (literal (c :: rest.takeWhile isWordPart), rest.dropWhile isWordPart)
    else if c = '"' then
      (quotedRest '"' rest).map fun (inside, rest) => (literal ('"' :: inside), rest)
    else if c = '\'' then
      match rest with
      | d :: e :: more =>
        if isWordStart d && e != '\'' then
          some (lifetime ('\'' :: d :: (e :: more).takeWhile isWordPart), (e :: more).dropWhile isWordPart)
        else (quotedRest '\'' rest).map fun (inside, rest) => (literal ('\'' :: inside), rest)
      | [d] => if isWordStart d then some (lifetime ['\'', d], []) else none
      | [] => none
    else if isOpening c then some (opens c, rest)
    else if isClosing c then some (closes c, rest)
    else
      match longMarks.find? fun m => m.isPrefixOf (c :: rest) with
      | some m => some (mark m, (c :: rest).drop m.length)
      | none => if isMark c then some (mark [c], rest) else none

/-- Where a token stands. -/
structure Context where
  /-- For every open bracket, innermost first, whether an expression stands in it. -/
  brackets : List Bool
  /-- How many angle brackets are open in the expression. -/
  angles : Nat
  /-- The token before. -/
  last : Option TypeToken
  deriving DecidableEq, Repr

namespace Context

def start : Context := ⟨[], 0, none⟩

def inExpression (x : Context) : Bool := x.brackets.head?.getD false

/-- An operand ends with the token before. -/
def afterOperand (x : Context) : Bool :=
  match x.last with
  | some (.word _) | some (.literal _) | some (.closes _) => true
  | _ => false

/-- An angle bracket opens here, and does not compare. -/
def opensAngle (x : Context) : Bool :=
  0 < x.angles || x.last = some (.mark [':', ':']) || !x.afterOperand

/-- The operators of two marks that count here. -/
def operators (x : Context) : List (List Char) :=
  if !x.inExpression || !x.afterOperand || 0 < x.angles then []
  else [['<', '<'], ['>', '>'], ['<', '='], ['>', '='], ['=', '='], ['!', '='], ['&', '&'], ['|', '|']]

/-- The context after a token. A semicolon between square brackets begins an expression, and brackets
    within an expression hold expressions. -/
def after (x : Context) (t : TypeToken) : Context :=
  match t with
  | .opens _ => { x with brackets := x.inExpression :: x.brackets, last := some t }
  | .closes _ =>
    let x := { x with brackets := x.brackets.drop 1, last := some t }
    if x.inExpression then x else { x with angles := 0 }
  | .mark [';'] => { x with brackets := true :: x.brackets.drop 1, last := some t }
  | .mark ['<'] =>
    { x with angles := if x.inExpression && x.opensAngle then x.angles + 1 else x.angles, last := some t }
  | .mark ['>'] => { x with angles := x.angles - 1, last := some t }
  | t => { x with last := some t }

end Context

/-- Takes one token off a text that does not start with a blank, in its context. -/
def nextIn? (x : Context) (cs : List Char) : Option (TypeToken × List Char) :=
  match x.operators.find? fun m => m.isPrefixOf cs with
  | some m => some (mark m, cs.drop m.length)
  | none => next? cs

/-- Takes tokens off a text until it is used up; each takes at least one character. -/
def readWithin : (fuel : Nat) → Context → List Char → Option (List TypeToken)
  | 0, _, cs => if (Text.trimStart cs).isEmpty then some [] else none
  | fuel + 1, x, cs =>
    match Text.trimStart cs with
    | [] => some []
    | c :: rest => do
      let (t, rest) ← nextIn? x (c :: rest)
      (readWithin fuel (x.after t) rest).map (t :: ·)

/-- The tokens of a text. -/
def read? (cs : List Char) : Option (List TypeToken) :=
  readWithin cs.length .start cs

def text : TypeToken → List Char
  | word cs | lifetime cs | literal cs | mark cs => cs
  | opens c | closes c => [c]

/-- Two tokens stand without a blank between them: round and square brackets hug what they hold. -/
def hugs : TypeToken → TypeToken → Bool
  | opens a, closes _ => a != '\x7b'
  | opens a, _ => a != '\x7b'
  | _, closes b => b != '\x7d'
  | _, _ => false

def write : List TypeToken → List Char
  | [] => []
  | [t] => t.text
  | t :: u :: rest => t.text ++ (if t.hugs u then [] else [' ']) ++ write (u :: rest)

end TypeToken

end StoreAccess
