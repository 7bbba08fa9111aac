import StoreAccess.Backend.Config
import StoreAccess.Config.CacheOptions

/-! Key-value stores: an address and the number of a database in it. -/

namespace StoreAccess

structure KeyValueConfig where
  url : String
  password : Secret
  db : Nat
  deriving DecidableEq

namespace KeyValueConfig

def fingerprintFields (c : KeyValueConfig) : FingerprintFields :=
  (((FingerprintFields.ofKind .keyValue).field "url" c.url).secret "password" c.password).number "db" c.db

def check (c : KeyValueConfig) : Except Error Unit :=
  FieldFault.report (FieldFault.ofText "url" c.url)

instance : BackendConfig KeyValueConfig where
  kind _ := .keyValue
  fingerprint c := c.fingerprintFields.finish
  check := check

def ofSource? {σ : Type} [Source σ] (x : σ) : Option KeyValueConfig := do
  match ← Source.slots? ["url", "password", "db"] x with
  | [url, password, db] =>
    some ⟨← Source.required? Source.text? url, ⟨← Source.withDefault? "" Source.text? password⟩,
      ← Source.withDefault? 0 (Source.natural? 4294967295) db⟩
  | _ => none

def toJson (c : KeyValueConfig) : Json :=
  .obj [("url", .str c.url), ("password", c.password.toJson), ("db", .int c.db)]

def dump (c : KeyValueConfig) : String :=
  dumpFields "KeyValueConfig"
    [("url", Text.quote c.url), ("password", c.password.dump), ("db", String.ofList (natText c.db))]

end KeyValueConfig

end StoreAccess
