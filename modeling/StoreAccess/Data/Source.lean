import StoreAccess.Data.Dict
import StoreAccess.Data.Duration
import StoreAccess.Data.Json

/-! Reading typed data out of any form of exchanged data: each form says which of its values can stand
    for a text, a number, a list or a keyed object. A structure is read from a keyed object, where
    unknown keys are passed over, or, in forms that allow it, from a list in the order of its fields. -/

namespace StoreAccess

class Source (σ : Type) where
  text? : σ → Option String
  /-- A natural number up to a limit. -/
  natural? : Nat → σ → Option Nat
  items? : σ → Option (List σ)
  /-- The fields of a structure that is given without their names. -/
  positions? : σ → Option (List σ)
  fields? : σ → Option (List (String × σ))
  /-- A value that may stand for the absence of one; what is found is the value, if it does not. -/
  present? : σ → Option (Option σ)

namespace Source

variable {σ : Type} [Source σ] {α : Type}

/-- What a keyed object has under a key, which may not be there twice. -/
def unique? (key : String) (fields : List (String × σ)) : Option (Option σ) :=
  match fields.filter fun f => f.1 == key with
  | [] => some none
  | [f] => some (some f.2)
  | _ => none

/-- The fields of a structure, each of which may be missing. -/
def slots? (names : List String) (x : σ) : Option (List (Option σ)) :=
  match positions? x, fields? x with
  | _, some fields => names.mapM fun name => unique? name fields
  | some items, none =>
    if items.length ≤ names.length then
      some (items.map some ++ List.replicate (names.length - items.length) none)
    else none
  | none, none => none

/-- A field that has to be there. -/
def required? (read : σ → Option α) (slot : Option σ) : Option α :=
  slot.bind read

/-- A field with a value that stands in if it is missing. -/
def withDefault? (default : α) (read : σ → Option α) (slot : Option σ) : Option α :=
  slot.elim (some default) read

/-- A field that may be missing or absent. -/
def optional? (read : σ → Option α) (slot : Option σ) : Option (Option α) :=
  match slot with
  | none => some none
  | some x => do
    match ← present? x with
    | none => some none
    | some x => (read x).map some

def duration? (x : σ) : Option Duration :=
  (text? x).bind fun s => Duration.read? s.toList

def texts? (x : σ) : Option (List String) :=
  (items? x).bind fun xs => xs.mapM text?

/-- A keyed object whose values are all read alike; of two with one key the later counts. -/
def dict? (read : σ → Option α) (x : σ) : Option (Dict α) := do
  let fields ← fields? x
  let pairs ← fields.mapM fun f => (read f.2).map fun v => (f.1, v)
  some (.ofList pairs)

end Source

/-- Exchanged data stand for nothing but themselves. -/
instance : Source Json where
  text?
    | .str s => some s
    | _ => none
  natural? limit
    | .int n => if 0 ≤ n ∧ n ≤ limit then some n.toNat else none
    | _ => none
  items?
    | .arr items => some items
    | _ => none
  positions?
    | .arr items => some items
    | _ => none
  fields?
    | .obj fields => some fields
    | _ => none
  present?
    | .null => some none
    | x => some (some x)

end StoreAccess
