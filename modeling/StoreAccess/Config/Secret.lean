import StoreAccess.Data.Json

/-! Texts that are not to be shown: dumps and exchanged data have a fixed text in their place. -/

namespace StoreAccess

structure Secret where
  expose : String
  deriving DecidableEq

namespace Secret

def empty : Secret := ⟨""⟩

def isEmpty (s : Secret) : Bool := s.expose = ""

def ofJson? : Json → Option Secret
  | .str s => some ⟨s⟩
  | _ => none

/-- What a dump shows in the place of any secret. -/
def dump (_ : Secret) : String := "\"***\""

/-- What exchanged data have in the place of any secret. -/
def toJson (_ : Secret) : Json := .str "***REDACTED***"

end Secret

end StoreAccess
