/-! The kinds of external stores. -/

namespace StoreAccess

inductive BackendKind where
  | relational
  | keyValue
  | document
  | wideColumn
  | search
  | coordination
  | messageQueue
  deriving DecidableEq, Repr

namespace BackendKind

def name : BackendKind → String
  | relational => "relational"
  | keyValue => "key-value"
  | document => "document"
  | wideColumn => "wide-column"
  | search => "search"
  | coordination => "coordination"
  | messageQueue => "message-queue"

def all : List BackendKind :=
  [relational, keyValue, document, wideColumn, search, coordination, messageQueue]

def ofName? (s : String) : Option BackendKind :=
  all.find? fun k => k.name == s

theorem ofName?_name (k : BackendKind) : ofName? k.name = some k := by
  cases k <;> decide

end BackendKind

end StoreAccess
