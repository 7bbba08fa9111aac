import StoreAccess.Data.Duration
import StoreAccess.Error

/-! How many connections a client may hold, and for how long. -/

namespace StoreAccess

structure PoolSettings where
  maxOpen : Nat
  maxIdle : Nat
  maxLifetime : Duration
  deriving DecidableEq, Repr

namespace PoolSettings

/-- Settings with the default in the place of each zero. -/
def ofCounts (maxOpen maxIdle : Nat) (maxLifetime : Duration) : PoolSettings :=
  ⟨if maxOpen = 0 then 10 else maxOpen, if maxIdle = 0 then 8 else maxIdle,
    if maxLifetime.isZero then .ofSeconds 3600 else maxLifetime⟩

def default : PoolSettings := ofCounts 0 0 .zero

/-- No more connections may be idle than open. -/
def check (p : PoolSettings) : Except Error Unit :=
  if p.maxIdle > p.maxOpen then
    .error (.configuration ("max idle connections (" ++ String.ofList (natText p.maxIdle)
      ++ ") exceeds max open connections (" ++ String.ofList (natText p.maxOpen) ++ ")"))
  else .ok ()

end PoolSettings

end StoreAccess
