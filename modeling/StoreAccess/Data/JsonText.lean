import StoreAccess.Data.Dict
import StoreAccess.Data.Json
import StoreAccess.Number.FloatLiteral
import StoreAccess.Number.Shortest
import StoreAccess.Text.Hex

/-! The text form of exchanged data. It is written without blanks. A number is read as a whole number if
    it is written as one and fits 64 bits. -/

namespace StoreAccess
namespace Json

/-! ### Writing -/

/-- How one character stands inside quotes. -/
def escapeChar (c : Char) : List Char :=
  if c = '"' then ['\\', '"']
  else if c = '\\' then ['\\', '\\']
  else if c = '\n' then ['\\', 'n']
  else if c = '\r' then ['\\', 'r']
  else if c = '\t' then ['\\', 't']
  else if c = '\x08' then ['\\', 'b']
  else if c = '\x0c' then ['\\', 'f']
  else if c.toNat < 0x20 then ['\\', 'u'] ++ Text.hexFixed 4 c.toNat
  else [c]

def quotedText (s : String) : String :=
  "\"" ++ String.ofList (s.toList.flatMap escapeChar) ++ "\""

mutual

/-- The text of data. -/
def text : Json → String
  | null => "null"
  | bool b => if b then "true" else "false"
  | int n => String.ofList (intText n)
  | float x => String.ofList x.text
  | str s => quotedText s
  | arr items => "[" ++ itemsText items ++ "]"
  | obj fields => "\x7b" ++ fieldsText fields ++ "\x7d"

def itemsText : List Json → String
  | [] => ""
  | [x] => text x
  | x :: rest => text x ++ "," ++ itemsText rest

def fieldsText : List (String × Json) → String
  | [] => ""
  | [(k, x)] => quotedText k ++ ":" ++ text x
  | (k, x) :: rest => quotedText k ++ ":" ++ text x ++ "," ++ fieldsText rest

end

/-! ### Reading -/

def skipBlanks (cs : List Char) : List Char :=
  cs.dropWhile fun c => c = ' ' || c = '\n' || c = '\t' || c = '\r'

/-- The number of four hexadecimal digits. -/
def hexFour? : List Char → Option (Nat × List Char)
  | a :: b :: c :: d :: rest => do
    let n := (((← Text.hexValue? a) * 16 + (← Text.hexValue? b)) * 16 + (← Text.hexValue? c)) * 16
      + (← Text.hexValue? d)
    some (n, rest)
  | _ => none

/-- The character that an escape stands for, without the backslash. Characters beyond sixteen bits are
    written as two escapes. -/
def escaped? : List Char → Option (Char × List Char)
  | 'n' :: rest => some ('\n', rest)
  | 't' :: rest => some ('\t', rest)
  | 'r' :: rest => some ('\r', rest)
  | 'b' :: rest => some ('\x08', rest)
  | 'f' :: rest => some ('\x0c', rest)
  | 'u' :: rest => do
    let (n, rest) ← hexFour? rest
    if n < 0xD800 ∨ 0xDFFF < n then some (Char.ofNat n, rest)
    else
      match rest with
      | '\\' :: 'u' :: rest => do
        let (m, rest) ← hexFour? rest
        if n < 0xDC00 ∧ 0xDC00 ≤ m ∧ m ≤ 0xDFFF then
          some (Char.ofNat (0x10000 + (n - 0xD800) * 0x400 + (m - 0xDC00)), rest)
        else none
      | _ => none
  | c :: rest => if c = '"' ∨ c = '\\' ∨ c = '/' then some (c, rest) else none
  | [] => none

/-- Reads a text up to its closing quote onto the characters read before, in reverse. -/
def readText (fuel : Nat) (acc cs : List Char) : Option (String × List Char) :=
  match fuel, cs with
  | fuel + 1, '\\' :: rest => do
    let (c, rest) ← escaped? rest
    readText fuel (c :: acc) rest
  | fuel + 1, c :: rest =>
    if c = '"' then some (String.ofList acc.reverse, rest) else readText fuel (c :: acc) rest
  | _, _ => none

def isNumberChar (c : Char) : Bool :=
  c.isDigit || c = '-' || c = '+' || c = '.' || c = 'e' || c = 'E'

/-- Reads a number. A negative zero is no whole number. -/
def readNumber (cs : List Char) : Option Json :=
  let type : IntType := if cs.head? = some '-' then .i64 else .u64
  match IntLiteral.read type cs with
  | .ok n => if cs.contains '+' ∨ cs = ['-', '0'] then (Double.read? cs).map float else some (int n)
  | .error _ => (Double.read? cs).map float

mutual

def readValue (fuel : Nat) (cs : List Char) : Option (Json × List Char) :=
  match fuel with
  | 0 => none
  | fuel + 1 =>
    match skipBlanks cs with
    | '"' :: rest => (readText rest.length [] rest).map fun p => (str p.1, p.2)
    | '[' :: rest =>
      match skipBlanks rest with
      | ']' :: rest => some (arr [], rest)
      | rest => (readItems fuel rest).map fun p => (arr p.1, p.2)
    | '\x7b' :: rest =>
      match skipBlanks rest with
      | '\x7d' :: rest => some (obj [], rest)
      | rest => (readFields fuel rest).map fun p => (obj (Dict.ofList p.1).entries, p.2)
    | 'n' :: 'u' :: 'l' :: 'l' :: rest => some (null, rest)
    | 't' :: 'r' :: 'u' :: 'e' :: rest => some (bool true, rest)
    | 'f' :: 'a' :: 'l' :: 's' :: 'e' :: rest => some (bool false, rest)
    | cs =>
      let number := cs.takeWhile isNumberChar
      (readNumber number).map fun j => (j, cs.drop number.length)

def readItems (fuel : Nat) (cs : List Char) : Option (List Json × List Char) :=
  match fuel with
  | 0 => none
  | fuel + 1 => do
    let (x, rest) ← readValue fuel cs
    match skipBlanks rest with
    | ',' :: rest => (readItems fuel rest).map fun p => (x :: p.1, p.2)
    | ']' :: rest => some ([x], rest)
    | _ => none

def readFields (fuel : Nat) (cs : List Char) : Option (List (String × Json) × List Char) :=
  match fuel with
  | 0 => none
  | fuel + 1 =>
    match skipBlanks cs with
    | '"' :: rest => do
      let (key, rest) ← readText rest.length [] rest
      match skipBlanks rest with
      | ':' :: rest => do
        let (x, rest) ← readValue fuel rest
        match skipBlanks rest with
        | ',' :: rest => (readFields fuel rest).map fun p => ((key, x) :: p.1, p.2)
        | '\x7d' :: rest => some ([(key, x)], rest)
        | _ => none
      | _ => none
    | _ => none

end

/-- Reads data from a text that holds nothing else. -/
def read? (cs : List Char) : Option Json :=
  match readValue (cs.length + 1) cs with
  | some (x, rest) => if (skipBlanks rest).isEmpty then some x else none
  | none => none

end Json
end StoreAccess
