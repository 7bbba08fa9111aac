import StoreAccess.Backend.StoreConfig
import StoreAccess.Cache.Timeline

/-! Rehearsals: runs of a cache with a client that follows a script, step by step. Configurations, leases
    and probes go by names. -/

namespace StoreAccess

/-- A configuration under a name. Its name takes no part in its fingerprint. -/
structure NamedConfig where
  name : String
  config : StoreConfig

instance : BackendConfig NamedConfig where
  kind c := BackendConfig.kind c.config
  fingerprint c := BackendConfig.fingerprint c.config
  pool c := BackendConfig.pool c.config
  check c := BackendConfig.check c.config

/-- What a scripted client does about one request: it takes its time, then aborts, fails or succeeds. An
    operation may first invalidate its own configuration, and acquire it once more. -/
structure Outcome where
  delay : Nat
  panic : Bool
  error : Option Error
  invalidate : Bool
  reacquire : Bool
  value : Json

namespace Outcome

/-- Success at once. -/
def success : Outcome := ⟨0, false, none, false, false, .null⟩

def reply (o : Outcome) (r : Reply Json) : Option (Reply Json) :=
  if o.panic then none else some (o.error.elim r .failure)

/-- The calls that an operation makes first. -/
def calls (o : Outcome) (c : NamedConfig) : List (Call NamedConfig) :=
  (if o.invalidate then [.invalidate (BackendConfig.fingerprint c)] else [])
    ++ if o.reacquire then [.acquire c] else []

end Outcome

/-- What is left of a script: for dials a list of outcomes by the name of the configuration, for pings and
    closes an outcome by the number of the handle, for the operations of a task a list. Where the script
    says nothing, everything succeeds at once. -/
structure Script where
  dials : Dict (List Outcome)
  pings : List (Nat × Outcome)
  closes : List (Nat × Outcome)
  operations : List (Nat × NamedConfig × List Outcome)

namespace Script

def empty : Script := ⟨.empty, [], [], []⟩

def conduct (s : Script) (i : Nat) : Request NamedConfig → Script × Conduct NamedConfig Json
  | .dial c _ =>
    match s.dials.get? c.name with
    | some (o :: rest) =>
      ({ s with dials := s.dials.insert c.name rest }, ⟨[], o.delay, o.reply .success⟩)
    | _ => (s, ⟨[], 0, some .success⟩)
  | .ping l =>
    let o := (s.pings.lookup l.handle).getD .success
    (s, ⟨[], o.delay, o.reply .success⟩)
  | .close l =>
    let o := (s.closes.lookup l.handle).getD .success
    (s, ⟨[], o.delay, o.reply .success⟩)
  | .operate l =>
    match s.operations.lookup i with
    | none => (s, ⟨[], 0, some (.value .null)⟩)
    | some (c, outcomes) =>
      let o := outcomes.headD .success
      ({ s with operations := (i, c, outcomes.drop 1) :: s.operations },
        ⟨o.calls c, o.delay, o.reply (.value (.arr [.int l.handle, o.value]))⟩)

def client : Client NamedConfig Json Script := ⟨conduct⟩

end Script

/-- A call as a rehearsal names it. -/
inductive Deed where
  | acquire (c : NamedConfig)
  | invalidate (c : NamedConfig)
  | invalidateLease (name : String)
  | withConnection (c : NamedConfig) (outcomes : List Outcome)
  | contains (c : NamedConfig)
  | isEmpty
  | probeOnce
  | clear

inductive RehearsalStep where
  /-- A call; a lease that it yields is kept under a name. -/
  | deed (d : Deed) (name : Option String)
  /-- Calls that begin after a time each and run side by side. -/
  | parallel (deeds : List (Nat × Deed))
  | scriptDial (name : String) (outcomes : List Outcome)
  | scriptPing (handle : Nat) (o : Outcome)
  | scriptClose (handle : Nat) (o : Outcome)
  | showLease (name : String)
  | showOptions
  | sleep (delay : Nat)
  | spawnProbe (name : String) (interval : Duration)
  | spawnConfiguredProbe (name : String)
  | stopProbe (name : String)
  | dropProbe (name : String)

inductive RehearsalResult where
  | nothing
  /-- The answer of a call; a call that was aborted has none. -/
  | answer (a : Option (CallAnswer Json))
  /-- The answers of calls, and when each was over. -/
  | answers (list : List (Option (CallAnswer Json) × Nat))
  | lease (l : Lease)
  | options (o : CacheOptions)
  | spawned (outcome : Except Error Bool)

structure Rehearsal where
  timeline : Timeline NamedConfig Json Script
  leases : List (String × Lease)
  probes : List (String × Nat)

namespace Rehearsal

def ofOptions (backend : BackendKind) (options : CacheOptions) : Except Error Rehearsal :=
  (Cache.ofOptions backend options .ofInsertion).map fun c => ⟨.ofCache c .empty, [], []⟩

/-- The name of the configuration that a handle was dialed for. -/
def dialedFor? (r : Rehearsal) (l : Lease) : Option String :=
  (r.timeline.dialed[l.handle - 1]?).map NamedConfig.name

def withScript (r : Rehearsal) (f : Script → Script) : Rehearsal :=
  { r with timeline := { r.timeline with client := f r.timeline.client } }

/-- The call of a deed, and what the client does in its operations. -/
def call? (r : Rehearsal) : Deed → Option (Call NamedConfig × Option (NamedConfig × List Outcome))
  | .acquire c => some (.acquire c, none)
  | .invalidate c => some (.invalidate (BackendConfig.fingerprint c), none)
  | .invalidateLease name => (r.leases.lookup name).map fun l => (.invalidateLease l, none)
  | .withConnection c outcomes => some (.withConnection c, some (c, outcomes))
  | .contains c => some (.contains (BackendConfig.fingerprint c), none)
  | .isEmpty => some (.length, none)
  | .probeOnce => some (.probeOnce, none)
  | .clear => some (.clear, none)

/-- Tells the client what to do in the operations of the next task. -/
def prepare (r : Rehearsal) (operations : Option (NamedConfig × List Outcome)) : Rehearsal :=
  match operations with
  | none => r
  | some o =>
    r.withScript fun s => { s with operations := (r.timeline.cache.tasks.length, o) :: s.operations }

def keep (r : Rehearsal) (name : Option String) (a : Option (CallAnswer Json)) : Rehearsal :=
  match name, a with
  | some name, some (.leased (.ok l)) => { r with leases := (name, l) :: r.leases }
  | _, _ => r

/-- Begins the deeds, each after its time; their tasks, in order. -/
def beginAll (r : Rehearsal) : List (Nat × Deed) → Option (Rehearsal × List Nat)
  | [] => some (r, [])
  | (delay, d) :: rest => do
    let (call, operations) ← r.call? d
    let r := r.prepare operations
    let i := r.timeline.cache.tasks.length
    let (r, tasks) ← { r with timeline := r.timeline.beginAfter delay call }.beginAll rest
    some (r, i :: tasks)

def spawn (r : Rehearsal) (name : String) (interval : Duration) : Except Error Rehearsal :=
  (Probe.ofInterval interval).map fun p =>
    { r with timeline := r.timeline.spawn p, probes := (name, r.timeline.probes.length) :: r.probes }

/-- Takes a probe out of the names. -/
def release (r : Rehearsal) (name : String) : Rehearsal :=
  { r with probes := r.probes.filter fun p => p.1 != name }

/-- One step. Names that nothing has are errors of the rehearsal. -/
def step (r : Rehearsal) : RehearsalStep → Option (Rehearsal × RehearsalResult)
  | .deed d name => do
    let (call, operations) ← r.call? d
    let r := r.prepare operations
    let (w, a) := r.timeline.call Script.client call
    some ({ r with timeline := w }.keep name a, .answer a)
  | .parallel deeds => do
    let (r, tasks) ← r.beginAll deeds
    let w := r.timeline.run Script.client fun w => tasks.all w.isEnded
    some ({ r with timeline := w },
      .answers (tasks.map fun i => (w.cache.answer? i, (w.ended.lookup i).getD w.now)))
  | .scriptDial name outcomes =>
    some (r.withScript fun s => { s with dials := s.dials.insert name outcomes }, .nothing)
  | .scriptPing handle o =>
    some (r.withScript fun s => { s with pings := (handle, o) :: s.pings }, .nothing)
  | .scriptClose handle o =>
    some (r.withScript fun s => { s with closes := (handle, o) :: s.closes }, .nothing)
  | .showLease name => (r.leases.lookup name).map fun l => (r, .lease l)
  | .showOptions => some (r, .options r.timeline.cache.options)
  | .sleep delay => some ({ r with timeline := r.timeline.sleep Script.client delay }, .nothing)
  | .spawnProbe name interval =>
    match r.spawn name interval with
    | .ok r => some (r, .spawned (.ok true))
    | .error e => some (r, .spawned (.error e))
  | .spawnConfiguredProbe name =>
    match r.timeline.cache.options.probeInterval with
    | none => some (r, .spawned (.ok false))
    | some interval =>
      match r.spawn name interval with
      | .ok r => some (r, .spawned (.ok true))
      | .error e => some (r, .spawned (.error e))
  | .stopProbe name => do
    let p ← r.probes.lookup name
    some ({ r with timeline := r.timeline.stopProbe Script.client p }.release name, .nothing)
  | .dropProbe name => do
    let p ← r.probes.lookup name
    some ({ r with timeline := r.timeline.dropProbe p }.release name, .nothing)

/-- Gives up the cache: how many probes were left, all of which end. -/
def giveUp (r : Rehearsal) : Rehearsal × Nat :=
  ({ r with timeline := r.timeline.giveUp Script.client (r.probes.reverse.map Prod.snd) },
    r.probes.length)

end Rehearsal

end StoreAccess
