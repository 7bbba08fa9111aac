import StoreAccess.Data.Json

/-! Reading the parts of exchanged data that are not known to be there. -/

namespace StoreAccess
namespace Json

def text? : Json → Option String
  | .str s => some s
  | _ => none

def int? : Json → Option Int
  | .int n => some n
  | _ => none

def nat? (j : Json) : Option Nat :=
  j.int?.bind fun n => if 0 ≤ n then some n.toNat else none

def bool? : Json → Option Bool
  | .bool b => some b
  | _ => none

def items? : Json → Option (List Json)
  | .arr xs => some xs
  | _ => none

def members? : Json → Option (List (String × Json))
  | .obj fields => some fields
  | _ => none

/-- All items of a list, each read the same way. -/
def each? {α : Type} (read : Json → Option α) (j : Json) : Option (List α) :=
  j.items?.bind fun xs => xs.mapM read

/-- The field of a name, unless it is missing or null. -/
def given? (j : Json) (key : String) : Option Json :=
  (j.field? key).bind fun
    | .null => none
    | x => some x

/-- A field that must be there. -/
def required? {α : Type} (j : Json) (key : String) (read : Json → Option α) : Option α :=
  (j.field? key).bind read

/-- A field that may be left out. -/
def optional? {α : Type} (j : Json) (key : String) (read : Json → Option α) : Option (Option α) :=
  match j.given? key with
  | some x => (read x).map some
  | none => some none

/-- A field that has a default. -/
def withDefault? {α : Type} (j : Json) (key : String) (default : α) (read : Json → Option α) :
    Option α :=
  match j.given? key with
  | some x => read x
  | none => some default

/-- A field that is true; any other is false. -/
def isSet (j : Json) (key : String) : Bool := (j.required? key bool?).getD false

/-- A list of pairs. -/
def pairs? {α β : Type} (first : Json → Option α) (second : Json → Option β) (j : Json) :
    Option (List (α × β)) :=
  j.each? fun
    | .arr [a, b] => do some (← first a, ← second b)
    | _ => none

end Json
end StoreAccess
