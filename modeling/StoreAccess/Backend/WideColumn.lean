import StoreAccess.Backend.Config
import StoreAccess.Config.CacheOptions

/-! Wide-column stores. One client serves every table of a cluster, so the address alone is the
    target. -/

namespace StoreAccess

structure WideColumnConfig where
  url : String
  table : String
  columnFamily : String
  deriving DecidableEq, Repr

namespace WideColumnConfig

/-- A configuration that names no table. -/
def ofUrl (url : String) : WideColumnConfig := ⟨url, "", ""⟩

def withTable (c : WideColumnConfig) (table columnFamily : String) : WideColumnConfig :=
  { c with table := table, columnFamily := columnFamily }

def fingerprintFields (c : WideColumnConfig) : FingerprintFields :=
  (FingerprintFields.ofKind .wideColumn).field "url" c.url

def check (c : WideColumnConfig) : Except Error Unit :=
  FieldFault.report (FieldFault.ofText "url" c.url)

instance : BackendConfig WideColumnConfig where
  kind _ := .wideColumn
  fingerprint c := c.fingerprintFields.finish
  check := check

def ofSource? {σ : Type} [Source σ] (x : σ) : Option WideColumnConfig := do
  match ← Source.slots? ["url", "table", "column_family"] x with
  | [url, table, columnFamily] =>
    some ⟨← Source.required? Source.text? url, ← Source.withDefault? "" Source.text? table,
      ← Source.withDefault? "" Source.text? columnFamily⟩
  | _ => none

def toJson (c : WideColumnConfig) : Json :=
  .obj [("url", .str c.url), ("table", .str c.table), ("column_family", .str c.columnFamily)]

def dump (c : WideColumnConfig) : String :=
  dumpFields "WideColumnConfig"
    [("url", Text.quote c.url), ("table", Text.quote c.table),
     ("column_family", Text.quote c.columnFamily)]

end WideColumnConfig

end StoreAccess
