import StoreAccess.Config.Secret
import StoreAccess.Data.Source
import StoreAccess.Error

/-! The deadlines of a cache, and how often it probes its handles. -/

namespace StoreAccess

structure CacheOptions where
  /-- The time a new handle may take. -/
  dialTimeout : Duration
  /-- The time an operation may take. -/
  operationTimeout : Duration
  /-- The time between two probes; without it nothing is probed. -/
  probeInterval : Option Duration
  deriving DecidableEq, Repr

/-- A length of time in exchanged data. -/
def Duration.toJson (d : Duration) : Json := .str (String.ofList d.text)

namespace CacheOptions

def default : CacheOptions := ⟨.ofSeconds 5, .ofSeconds 10, none⟩

def withDialTimeout (o : CacheOptions) (d : Duration) : CacheOptions := { o with dialTimeout := d }

def withOperationTimeout (o : CacheOptions) (d : Duration) : CacheOptions :=
  { o with operationTimeout := d }

def withProbeInterval (o : CacheOptions) (d : Duration) : CacheOptions :=
  { o with probeInterval := some d }

/-- The names of the times that are zero, in order. -/
def zeroTimes (o : CacheOptions) : List String :=
  (if o.dialTimeout.isZero then ["dial_timeout"] else [])
    ++ (if o.operationTimeout.isZero then ["operation_timeout"] else [])
    ++ (if o.probeInterval.any Duration.isZero then ["probe_interval"] else [])

/-- No time may be zero; the first that is zero is reported. -/
def check (o : CacheOptions) : Except Error Unit :=
  match o.zeroTimes with
  | [] => .ok ()
  | name :: _ => .error (.configuration (name ++ " must be greater than zero"))

def ofSource? {σ : Type} [Source σ] (x : σ) : Option CacheOptions := do
  match ← Source.slots? ["dial_timeout", "operation_timeout", "probe_interval"] x with
  | [dial, operation, probe] =>
    some ⟨← Source.withDefault? default.dialTimeout Source.duration? dial,
      ← Source.withDefault? default.operationTimeout Source.duration? operation,
      ← Source.optional? Source.duration? probe⟩
  | _ => none

def toJson (o : CacheOptions) : Json :=
  .obj [("dial_timeout", o.dialTimeout.toJson), ("operation_timeout", o.operationTimeout.toJson),
    ("probe_interval", o.probeInterval.elim .null Duration.toJson)]

end CacheOptions

end StoreAccess
