import StoreAccess.Backend.Config
import StoreAccess.Config.CacheOptions

/-! Document stores. One session serves every database and collection at an address, so the address
    alone is the target. -/

namespace StoreAccess

structure DocumentConfig where
  address : String
  database : String
  collection : String
  deriving DecidableEq, Repr

namespace DocumentConfig

def fingerprintFields (c : DocumentConfig) : FingerprintFields :=
  (FingerprintFields.ofKind .document).field "address" c.address

def check (c : DocumentConfig) : Except Error Unit :=
  FieldFault.report (FieldFault.ofText "address" c.address)

instance : BackendConfig DocumentConfig where
  kind _ := .document
  fingerprint c := c.fingerprintFields.finish
  check := check

def ofSource? {σ : Type} [Source σ] (x : σ) : Option DocumentConfig := do
  match ← Source.slots? ["address", "database", "collection"] x with
  | [address, database, collection] =>
    some ⟨← Source.required? Source.text? address, ← Source.withDefault? "" Source.text? database,
      ← Source.withDefault? "" Source.text? collection⟩
  | _ => none

def toJson (c : DocumentConfig) : Json :=
  .obj [("address", .str c.address), ("database", .str c.database), ("collection", .str c.collection)]

def dump (c : DocumentConfig) : String :=
  dumpFields "DocumentConfig"
    [("address", Text.quote c.address), ("database", Text.quote c.database),
     ("collection", Text.quote c.collection)]

end DocumentConfig

end StoreAccess
