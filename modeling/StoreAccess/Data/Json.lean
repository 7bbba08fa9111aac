import StoreAccess.Number.Binary

/-! Data as it is exchanged: null, truth values, numbers, texts, lists and keyed objects. Whole numbers
    that fit 64 bits, signed or not, are kept apart from all other numbers. -/

namespace StoreAccess

inductive Json where
  | null
  | bool (b : Bool)
  | int (n : Int)
  | float (x : Double)
  | str (s : String)
  | arr (items : List Json)
  | obj (fields : List (String × Json))
  deriving Repr

namespace Json

/-- The value under a key of an object. -/
def field? (j : Json) (key : String) : Option Json :=
  match j with
  | obj fields => fields.lookup key
  | _ => none

end Json

end StoreAccess
