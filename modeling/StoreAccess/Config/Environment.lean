/-! References to variables in a text. A reference is a name in braces after a dollar sign, perhaps with
    a default after `:-`. It is replaced by the value of the variable, or by the default if there is
    none. Replaced text is not looked at again. -/

namespace StoreAccess

/-- The variables that are set. -/
structure Environment where
  value? : String → Option String

namespace Environment

def isNameStart (c : Char) : Bool := c.isAlpha || c = '_'

def isNameChar (c : Char) : Bool := c.isAlphanum || c = '_'

/-- A reference, and what follows it. -/
structure Reference where
  name : List Char
  default : List Char
  rest : List Char
  deriving DecidableEq, Repr

namespace Reference

/-- Reads the part of a reference after its name. -/
def close? (name : List Char) : List Char → Option Reference
  | '\x7d' :: rest => some ⟨name, [], rest⟩
  | ':' :: '-' :: rest =>
    match rest.dropWhile (· ≠ '\x7d') with
    | _ :: after => some ⟨name, rest.takeWhile (· ≠ '\x7d'), after⟩
    | [] => none
  | _ => none

/-- Reads the reference that a text begins with. -/
def read? : List Char → Option Reference
  | '$' :: '\x7b' :: c :: rest =>
    if isNameStart c then close? (c :: rest.takeWhile isNameChar) (rest.dropWhile isNameChar) else none
  | _ => none

/-- What stands in the place of a reference. -/
def value (env : Environment) (r : Reference) : List Char :=
  match env.value? (String.ofList r.name) with
  | some s => s.toList
  | none => r.default

theorem length_close? {name cs : List Char} {r : Reference} (h : close? name cs = some r) :
    r.rest.length < cs.length := by
  unfold close? at h
  split at h
  · cases h; simp
  · rename_i rest
    split at h
    · rename_i after hd
      cases h
      have := (List.dropWhile_sublist (· ≠ '\x7d') (l := rest)).length_le
      rw [hd] at this
      simp only [List.length_cons] at this ⊢
      omega
    · cases h
  · cases h

/-- A reference takes up some of the text. -/
theorem length_read? {cs : List Char} {r : Reference} (h : read? cs = some r) :
    r.rest.length < cs.length := by
  unfold read? at h
  split at h
  · rename_i c rest
    split at h
    · have := length_close? h
      have := (List.dropWhile_sublist isNameChar (l := rest)).length_le
      simp only [List.length_cons]
      omega
    · cases h
  · cases h

end Reference

/-- Replaces the references in a text, from left to right. -/
def expand (env : Environment) (cs : List Char) : List Char :=
  match _h : Reference.read? cs with
  | some r => r.value env ++ expand env r.rest
  | none =>
    match cs with
    | [] => []
    | c :: rest => c :: expand env rest
termination_by cs.length
decreasing_by
  · exact Reference.length_read? (by assumption)
  · simp

end Environment

end StoreAccess
