import StoreAccess.Config.Fingerprint
import StoreAccess.Config.Pool

/-! What all configurations of external stores have in common: a kind, a fingerprint that tells which of
    them share a connection, a pool, and a check made before anything is dialed. -/

namespace StoreAccess

namespace BackendKind

/-- Reads exchanged data: the name of a kind, or an object with nothing under it. -/
def ofJson? : Json → Option BackendKind
  | .str name => ofName? name
  | .obj [(name, .null)] => ofName? name
  | _ => none

def toJson (k : BackendKind) : Json := .str k.name

end BackendKind

class BackendConfig (κ : Type) where
  kind : κ → BackendKind
  fingerprint : κ → Fingerprint
  pool : κ → PoolSettings := fun _ => .default
  check : κ → Except Error Unit := fun _ => .ok ()

/-- A rule that the value of a field breaks. It is told by its name; how a checker words it is left out. -/
structure FieldFault where
  field : String
  rule : String
  deriving DecidableEq, Repr

namespace FieldFault

def text (f : FieldFault) : String := f.field ++ ": " ++ f.rule

/-- A text that may not be empty. -/
def ofText (field value : String) : List FieldFault :=
  if value = "" then [⟨field, "length"⟩] else []

/-- All faults are reported at once, in ascending order. -/
def report (faults : List FieldFault) : Except Error Unit :=
  match (faults.map text).mergeSort fun a b => decide (a ≤ b) with
  | [] => .ok ()
  | texts => .error (.configuration ("; ".intercalate texts))

end FieldFault

/-- The dump of a structure: its name and its fields with the dumps of their values. -/
def dumpFields (name : String) (fields : List (String × String)) : String :=
  name ++ " \x7b " ++ ", ".intercalate (fields.map fun f => f.1 ++ ": " ++ f.2) ++ " \x7d"

/-- The dump of a list of texts. -/
def dumpTexts (items : List String) : String :=
  "[" ++ ", ".intercalate (items.map Text.quote) ++ "]"

/-- The dump of named texts. -/
def dumpPairs (pairs : List (String × String)) : String :=
  "\x7b" ++ ", ".intercalate (pairs.map fun p => Text.quote p.1 ++ ": " ++ Text.quote p.2) ++ "\x7d"

end StoreAccess
