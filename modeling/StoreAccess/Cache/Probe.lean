import StoreAccess.Config.CacheOptions

/-! The liveness probe of a cache: it probes all handles at every tick, until it is told to stop or the
    cache is gone. Ticks are one interval apart; one that comes late is taken at once, and the next one
    is then counted from it. -/

namespace StoreAccess

/-- What a probe is doing; ticks are given as times since the start of the clock. -/
inductive ProbeState where
  /-- It has not run yet. -/
  | fresh
  | waiting (tick : Duration)
  /-- It is probing; `next` is the tick after this one. -/
  | probing (next : Duration)
  | ended (panicked : Bool)
  deriving DecidableEq, Repr

structure Probe where
  interval : Duration
  state : ProbeState
  /-- It was told to stop. -/
  stopped : Bool
  deriving DecidableEq, Repr

namespace Probe

/-- A probe with the time between two ticks, which may not be zero. -/
def ofInterval (interval : Duration) : Except Error Probe :=
  if interval.isZero then .error (.configuration "probe_interval must be greater than zero")
  else .ok ⟨interval, .fresh, false⟩

/-- How late a tick may be taken without moving the ticks after it. -/
def tolerance : Duration := .ofMillis 5

/-- The tick after one that was due at `tick` and is taken at `now`. -/
def nextTick (p : Probe) (tick now : Duration) : Duration :=
  if tick.nanos + tolerance.nanos < now.nanos then ⟨now.nanos + p.interval.nanos⟩
  else ⟨tick.nanos + p.interval.nanos⟩

def isEnded (p : Probe) : Bool :=
  match p.state with
  | .ended _ => true
  | _ => false

def hasPanicked (p : Probe) : Bool := p.state = .ended true

end Probe

end StoreAccess
