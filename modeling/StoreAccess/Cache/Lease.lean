import StoreAccess.Backend.Config

/-! What a cache holds and lends: for each target one handle, with the generation in which it was
    put in. -/

namespace StoreAccess

/-- A configuration together with its fingerprint. -/
structure Target (κ : Type) [BackendConfig κ] where
  config : κ
  fingerprint : Fingerprint
  fingerprint_eq : fingerprint = BackendConfig.fingerprint config

namespace Target

variable {κ : Type} [BackendConfig κ]

def ofConfig (config : κ) : Target κ := ⟨config, BackendConfig.fingerprint config, rfl⟩

def kind (t : Target κ) : BackendKind := BackendConfig.kind t.config

def pool (t : Target κ) : PoolSettings := BackendConfig.pool t.config

/-- What is checked before a target is dialed. -/
def check (t : Target κ) : Except Error Unit := do
  BackendConfig.check t.config
  t.pool.check

end Target

/-- A handle on loan. Handles are numbered in the order in which they were dialed. -/
structure Lease where
  handle : Nat
  fingerprint : Fingerprint
  generation : Nat
  deriving DecidableEq, Repr

def Lease.dump (l : Lease) : String :=
  dumpFields "Lease"
    [("fingerprint", l.fingerprint.dump), ("generation", String.ofList (natText l.generation))]

/-- A cached handle, and the target it was dialed for. When it was dialed (`created_at`) is left out: it is read for
    the age in an event only. -/
structure Entry (κ : Type) [BackendConfig κ] where
  target : Target κ
  handle : Nat
  generation : Nat

namespace Entry

variable {κ : Type} [BackendConfig κ]

def lease (e : Entry κ) : Lease := ⟨e.handle, e.target.fingerprint, e.generation⟩

end Entry

end StoreAccess
