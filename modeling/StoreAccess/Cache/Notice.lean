import StoreAccess.Cache.Lease
import StoreAccess.Log

/-! The log events of a cache. -/

namespace StoreAccess
namespace Notice

def number (n : Nat) : String := String.ofList (natText n)

/-- The field that names a target without showing it. -/
def shortOf (f : Fingerprint) : String × String := ("fingerprint", f.short)

def backendOf (kind : BackendKind) : String × String := ("backend", kind.name)

def errorOf (e : Error) : String × String := ("error", e.message)

def hit (l : Lease) : LogEvent :=
  ⟨.debug, "cache hit", [shortOf l.fingerprint, ("generation", number l.generation)]⟩

def createdConcurrently (f : Fingerprint) : LogEvent :=
  ⟨.debug, "handle created concurrently", [shortOf f]⟩

def dialing (kind : BackendKind) (f : Fingerprint) (pool : PoolSettings) : LogEvent :=
  ⟨.debug, "dialing new connection",
    [backendOf kind, shortOf f, ("max_open", number pool.maxOpen), ("max_idle", number pool.maxIdle),
     ("max_lifetime_secs", number pool.maxLifetime.seconds)]⟩

def dialFailed (kind : BackendKind) (f : Fingerprint) (e : Error) : LogEvent :=
  ⟨.warn, "dial failed", [backendOf kind, shortOf f, errorOf e]⟩

def established (kind : BackendKind) (l : Lease) : LogEvent :=
  ⟨.info, "connection established",
    [backendOf kind, shortOf l.fingerprint, ("generation", number l.generation)]⟩

def replacedAlready (l : Lease) : LogEvent :=
  ⟨.debug, "lease already replaced", [shortOf l.fingerprint, ("generation", number l.generation)]⟩

/-- The event also tells how many seconds ago the handle was dialed (`age_secs`). This depends on the clock alone and
    is left out. -/
def invalidating (kind : BackendKind) (l : Lease) : LogEvent :=
  ⟨.warn, "invalidating connection",
    [backendOf kind, shortOf l.fingerprint, ("generation", number l.generation)]⟩

def closeFailed (f : Fingerprint) (e : Error) : LogEvent :=
  ⟨.warn, "close failed", [shortOf f, errorOf e]⟩

def retrying (kind : BackendKind) (e : Error) : LogEvent :=
  ⟨.warn, "operation failed, retrying once on a fresh connection", [backendOf kind, errorOf e]⟩

def probeFailed (f : Fingerprint) : LogEvent :=
  ⟨.warn, "liveness probe failed", [shortOf f]⟩

def redialFailed (f : Fingerprint) (e : Error) : LogEvent :=
  ⟨.warn, "re-dial after failed probe", [shortOf f, errorOf e]⟩

def probeReplaced (count : Nat) : LogEvent :=
  ⟨.info, "liveness probe replaced connections", [("replaced", number count)]⟩

def probeStopped : LogEvent := ⟨.debug, "liveness probe stopped", []⟩

/-- What the task panicked with is left out. -/
def probePanicked : LogEvent := ⟨.warn, "liveness probe task panicked", []⟩

end Notice
end StoreAccess
