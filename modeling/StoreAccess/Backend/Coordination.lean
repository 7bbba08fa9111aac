import StoreAccess.Backend.Config
import StoreAccess.Config.CacheOptions

/-! Coordination services: the members of a cluster, in whatever order, and who connects. -/

namespace StoreAccess

structure CoordinationConfig where
  endpoints : List String
  username : String
  password : Secret
  deriving DecidableEq

namespace CoordinationConfig

/-- A configuration without a user. -/
def ofEndpoints (endpoints : List String) : CoordinationConfig :=
  ⟨endpoints, "", .empty⟩

def withCredentials (c : CoordinationConfig) (username : String) (password : Secret) :
    CoordinationConfig :=
  { c with username := username, password := password }

def fingerprintFields (c : CoordinationConfig) : FingerprintFields :=
  (((FingerprintFields.ofKind .coordination).list "endpoints" c.endpoints).field "username"
    c.username).secret "password" c.password

def isBlankEndpoint (endpoint : String) : Bool :=
  endpoint.toList.all Text.isBlank

def check (c : CoordinationConfig) : Except Error Unit := do
  FieldFault.report (if c.endpoints.isEmpty then [⟨"endpoints", "length"⟩] else [])
  if c.endpoints.any isBlankEndpoint then
    .error (.configuration "endpoints must not contain empty entries")
  else if c.username = "" ∧ !c.password.isEmpty then
    .error (.configuration "password given without username")
  else .ok ()

instance : BackendConfig CoordinationConfig where
  kind _ := .coordination
  fingerprint c := c.fingerprintFields.finish
  check := check

def ofSource? {σ : Type} [Source σ] (x : σ) : Option CoordinationConfig := do
  match ← Source.slots? ["endpoints", "username", "password"] x with
  | [endpoints, username, password] =>
    some ⟨← Source.required? Source.texts? endpoints, ← Source.withDefault? "" Source.text? username,
      ⟨← Source.withDefault? "" Source.text? password⟩⟩
  | _ => none

def toJson (c : CoordinationConfig) : Json :=
  .obj [("endpoints", .arr (c.endpoints.map .str)), ("username", .str c.username),
    ("password", c.password.toJson)]

def dump (c : CoordinationConfig) : String :=
  dumpFields "CoordinationConfig"
    [("endpoints", dumpTexts c.endpoints), ("username", Text.quote c.username),
     ("password", c.password.dump)]

end CoordinationConfig

end StoreAccess
