import StoreAccess.Cache.Stats
import StoreAccess.Config.CacheOptions
import StoreAccess.Config.Pool
import StoreAccess.Data.Json
import StoreAccess.Error
import StoreAccess.Log

/-! Errors, settings and events as exchanged data, for whoever follows what the library does. -/

namespace StoreAccess

namespace BindError

/-- The fields that only some errors have. -/
def details : BindError → List (String × Json)
  | parse _ value expected => [("variant", .str "Parse"), ("value", .str value), ("expected", .str expected)]
  | overflow _ value kind => [("variant", .str "Overflow"), ("value", .str value), ("expected", .str kind)]
  | required _ absent => [("variant", .str "Required"), ("absent", .bool absent)]
  | unsupported _ kind => [("variant", .str "Unsupported"), ("expected", .str kind)]

def report (e : BindError) : Json :=
  .obj ([("error", .str "Bind"), ("message", .str e.message), ("target", .str e.target),
    ("overflow", .bool e.isOverflow)] ++ e.details)

end BindError

def ErrorCategory.title : ErrorCategory → String
  | dial => "Dial"
  | operation => "Operation"
  | timeout => "Timeout"
  | notFound => "NotFound"
  | bind => "Bind"
  | configuration => "Configuration"

def Error.report : Error → Json
  | .bind e => e.report
  | e => .obj [("error", .str e.category.title), ("message", .str e.message)]

/-- A value under `ok`, or the error. -/
def reportOutcome {α : Type} (write : α → Json) : Except Error α → Json
  | .ok x => .obj [("ok", write x)]
  | .error e => e.report

/-- Seconds with all nine digits after the point. -/
def Duration.report (d : Duration) : Json :=
  .str (String.ofList (natText d.seconds ++ ['.'] ++ padded 9 d.subsecond))

def PoolSettings.report (p : PoolSettings) : Json :=
  .arr [.int p.maxOpen, .int p.maxIdle, p.maxLifetime.report]

def reportCheck (outcome : Except Error Unit) : Json :=
  reportOutcome (fun _ => .null) outcome

def CacheOptions.report (o : CacheOptions) : Json :=
  .obj [("dial_timeout", o.dialTimeout.report), ("operation_timeout", o.operationTimeout.report),
    ("probe_interval", o.probeInterval.elim .null Duration.report), ("check", reportCheck o.check),
    ("json", o.toJson)]

def CacheStats.report (s : CacheStats) : Json := .arr (s.counts.map fun n : Nat => .int n)

def LogEvent.report (e : LogEvent) : Json :=
  .arr [.str e.level.name, .str e.message, .obj (e.fields.map fun f => (f.1, .str f.2))]

end StoreAccess
