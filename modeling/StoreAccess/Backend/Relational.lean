import StoreAccess.Backend.Config
import StoreAccess.Config.CacheOptions

/-! Relational databases: who connects where, the pool of connections, and the session variables that
    every new connection sets. -/

namespace StoreAccess

structure RelationalConfig where
  user : String
  password : Secret
  host : String
  port : Nat
  database : String
  /-- Zero stands for the default, here and in the next two. -/
  maxOpen : Nat
  maxIdle : Nat
  maxLifetime : Duration
  params : Dict String
  deriving DecidableEq

namespace RelationalConfig

def standardPort : Nat := 3306

/-- A configuration with the default pool and no session variables. -/
def ofTarget (user : String) (password : Secret) (host : String) (port : Nat) (database : String) :
    RelationalConfig :=
  ⟨user, password, host, port, database, 0, 0, .zero, .empty⟩

def withPool (c : RelationalConfig) (maxOpen maxIdle : Nat) (maxLifetime : Duration) :
    RelationalConfig :=
  { c with maxOpen := maxOpen, maxIdle := maxIdle, maxLifetime := maxLifetime }

def withParam (c : RelationalConfig) (name value : String) : RelationalConfig :=
  { c with params := c.params.insert name value }

def portText (c : RelationalConfig) : String := String.ofList (natText c.port)

/-- Where the configuration points, without the password. -/
def displayUrl (c : RelationalConfig) : String :=
  "mysql://" ++ c.user ++ ":***@" ++ c.host ++ ":" ++ c.portText ++ "/" ++ c.database

def fingerprintFields (c : RelationalConfig) : FingerprintFields :=
  (((((FingerprintFields.ofKind .relational).field "user" c.user).secret "password" c.password).field
    "host" c.host).number "port" c.port).field "database" c.database |>.entries "params" c.params.sorted

def pool (c : RelationalConfig) : PoolSettings :=
  .ofCounts c.maxOpen c.maxIdle c.maxLifetime

def faults (c : RelationalConfig) : List FieldFault :=
  FieldFault.ofText "host" c.host ++ (if c.port < 1 then [⟨"port", "range"⟩] else [])
    ++ FieldFault.ofText "user" c.user

/-- Names of session variables are made of letters, digits and underscores. -/
def isVariableName (name : String) : Bool :=
  !name.isEmpty && name.toList.all fun c => c.isAlphanum || c = '_'

def checkParams (c : RelationalConfig) : Except Error Unit :=
  match (c.params.sorted.map Prod.fst).find? fun name => !isVariableName name with
  | some name => .error (.configuration ("invalid session variable name: " ++ Text.quote name))
  | none => .ok ()

def check (c : RelationalConfig) : Except Error Unit := do
  FieldFault.report c.faults
  c.pool.check
  c.checkParams

instance : BackendConfig RelationalConfig where
  kind _ := .relational
  fingerprint c := c.fingerprintFields.finish
  pool := pool
  check := check

def ofSource? {σ : Type} [Source σ] (x : σ) : Option RelationalConfig := do
  let names := ["user", "password", "host", "port", "database", "max_open_connections",
    "max_idle_connections", "conn_max_lifetime", "params"]
  match ← Source.slots? names x with
  | [user, password, host, port, database, maxOpen, maxIdle, maxLifetime, params] =>
    some ⟨← Source.required? Source.text? user,
      ⟨← Source.withDefault? "" Source.text? password⟩,
      ← Source.required? Source.text? host,
      ← Source.withDefault? standardPort (Source.natural? 65535) port,
      ← Source.withDefault? "" Source.text? database,
      ← Source.withDefault? 0 (Source.natural? 4294967295) maxOpen,
      ← Source.withDefault? 0 (Source.natural? 4294967295) maxIdle,
      ← Source.withDefault? .zero Source.duration? maxLifetime,
      ← Source.withDefault? .empty (Source.dict? Source.text?) params⟩
  | _ => none

def toJson (c : RelationalConfig) : Json :=
  .obj [("user", .str c.user), ("password", c.password.toJson), ("host", .str c.host),
    ("port", .int c.port), ("database", .str c.database), ("max_open_connections", .int c.maxOpen),
    ("max_idle_connections", .int c.maxIdle), ("conn_max_lifetime", c.maxLifetime.toJson),
    ("params", .obj (c.params.sorted.map fun p => (p.1, .str p.2)))]

def dump (c : RelationalConfig) : String :=
  dumpFields "RelationalConfig"
    [("user", Text.quote c.user), ("password", c.password.dump), ("host", Text.quote c.host),
     ("port", c.portText), ("database", Text.quote c.database),
     ("max_open_connections", String.ofList (natText c.maxOpen)),
     ("max_idle_connections", String.ofList (natText c.maxIdle)),
     ("conn_max_lifetime", String.ofList c.maxLifetime.dump), ("params", dumpPairs c.params.sorted)]

end RelationalConfig

end StoreAccess
