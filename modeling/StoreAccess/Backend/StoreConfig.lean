import StoreAccess.Backend.Coordination
import StoreAccess.Backend.Document
import StoreAccess.Backend.KeyValue
import StoreAccess.Backend.Relational
import StoreAccess.Backend.WideColumn

/-! A configuration of any of the kinds that have one. -/

namespace StoreAccess

inductive StoreConfig where
  | relational (c : RelationalConfig)
  | keyValue (c : KeyValueConfig)
  | document (c : DocumentConfig)
  | coordination (c : CoordinationConfig)
  | wideColumn (c : WideColumnConfig)
  deriving DecidableEq

namespace StoreConfig

def kind : StoreConfig → BackendKind
  | relational _ => .relational
  | keyValue _ => .keyValue
  | document _ => .document
  | coordination _ => .coordination
  | wideColumn _ => .wideColumn

def fingerprintFields : StoreConfig → FingerprintFields
  | relational c => c.fingerprintFields
  | keyValue c => c.fingerprintFields
  | document c => c.fingerprintFields
  | coordination c => c.fingerprintFields
  | wideColumn c => c.fingerprintFields

def pool : StoreConfig → PoolSettings
  | relational c => BackendConfig.pool c
  | keyValue c => BackendConfig.pool c
  | document c => BackendConfig.pool c
  | coordination c => BackendConfig.pool c
  | wideColumn c => BackendConfig.pool c

def check : StoreConfig → Except Error Unit
  | relational c => BackendConfig.check c
  | keyValue c => BackendConfig.check c
  | document c => BackendConfig.check c
  | coordination c => BackendConfig.check c
  | wideColumn c => BackendConfig.check c

instance : BackendConfig StoreConfig where
  kind := kind
  fingerprint c := c.fingerprintFields.finish
  pool := pool
  check := check

/-- Reads a configuration of a kind; search engines and message queues have none. -/
def ofSource? {σ : Type} [Source σ] (kind : BackendKind) (x : σ) : Option StoreConfig :=
  match kind with
  | .relational => (RelationalConfig.ofSource? x).map relational
  | .keyValue => (KeyValueConfig.ofSource? x).map keyValue
  | .document => (DocumentConfig.ofSource? x).map document
  | .coordination => (CoordinationConfig.ofSource? x).map coordination
  | .wideColumn => (WideColumnConfig.ofSource? x).map wideColumn
  | .search | .messageQueue => none

def toJson : StoreConfig → Json
  | relational c => c.toJson
  | keyValue c => c.toJson
  | document c => c.toJson
  | coordination c => c.toJson
  | wideColumn c => c.toJson

def dump : StoreConfig → String
  | relational c => c.dump
  | keyValue c => c.dump
  | document c => c.dump
  | coordination c => c.dump
  | wideColumn c => c.dump

/-- The secret in a configuration, if its kind has one. -/
def secret? : StoreConfig → Option Secret
  | relational c => some c.password
  | keyValue c => some c.password
  | coordination c => some c.password
  | document _ | wideColumn _ => none

end StoreConfig

end StoreAccess
