/-! What a cache counts. -/

namespace StoreAccess

/-- The counters are of 64 bits each. They are numbers without bound here, so fewer than 2⁶⁴ events of each kind are
    meant. -/
structure CacheStats where
  /-- Handles dialed. -/
  dials : Nat
  /-- Dials that failed or took too long. -/
  dialFailures : Nat
  /-- Acquisitions that found a handle at once. -/
  hits : Nat
  /-- Acquisitions that did not. -/
  misses : Nat
  /-- Entries removed. -/
  invalidations : Nat
  /-- Handles closed. -/
  closes : Nat
  /-- Second attempts. -/
  retries : Nat
  /-- Probes that failed or took too long. -/
  probeFailures : Nat
  deriving DecidableEq, Repr

inductive Tally where
  | dial
  | dialFailure
  | hit
  | miss
  | invalidation
  | close
  | retry
  | probeFailure
  deriving DecidableEq, Repr

namespace CacheStats

def zero : CacheStats := ⟨0, 0, 0, 0, 0, 0, 0, 0⟩

def record (s : CacheStats) : Tally → CacheStats
  | .dial => { s with dials := s.dials + 1 }
  | .dialFailure => { s with dialFailures := s.dialFailures + 1 }
  | .hit => { s with hits := s.hits + 1 }
  | .miss => { s with misses := s.misses + 1 }
  | .invalidation => { s with invalidations := s.invalidations + 1 }
  | .close => { s with closes := s.closes + 1 }
  | .retry => { s with retries := s.retries + 1 }
  | .probeFailure => { s with probeFailures := s.probeFailures + 1 }

def counts (s : CacheStats) : List Nat :=
  [s.dials, s.dialFailures, s.hits, s.misses, s.invalidations, s.closes, s.retries, s.probeFailures]

end CacheStats

end StoreAccess
