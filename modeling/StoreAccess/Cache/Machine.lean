import StoreAccess.Cache.Call
import StoreAccess.Cache.Notice
import StoreAccess.Cache.Stats

/-! A cache of connections: one handle for each target, shared by every caller and replaced when an
    operation on it fails. Any number of calls run side by side. Each is a task that goes from phase to
    phase; a step belongs to one task, takes the lock its phase names, does its work and releases the
    lock, or answers what the client did. Who dials a target first stands at its gate, so that others
    who miss it wait there instead of dialing it too. -/

namespace StoreAccess

structure Task (κ α : Type) [BackendConfig κ] where
  phase : Phase κ α
  /-- The lock that the task holds. -/
  lock : Option Lock

/-- What a cache lets others see of its work, in order. -/
inductive CacheEvent (κ : Type) where
  | request (task : Nat) (r : Request κ)
  | log (e : LogEvent)

/-- In which order each task that takes all entries, which it does once, finds them, by their places. It may be any;
    see `arrange`. -/
abbrev EntryOrder := Nat → List Nat

/-- Entries are found in the order in which they were put in. -/
def EntryOrder.ofInsertion : EntryOrder := fun _ => []

/-- The items of a list in the order that is given by their places, if each place is named once; else in their own. -/
def arrange {β : Type} (places : List Nat) (l : List β) : List β :=
  if places.isPerm (List.range l.length) then places.filterMap fun place => l[place]? else l

structure Cache (κ α : Type) [BackendConfig κ] where
  /-- The kind of store that the client dials. -/
  backend : BackendKind
  options : CacheOptions
  order : EntryOrder
  entries : List (Entry κ)
  /-- Which tasks stand at which gate, in the order of arrival. The first at a gate has passed it. -/
  gates : List (Fingerprint × Nat)
  /-- The last generation given to an entry. It is a counter of 64 bits, so fewer than 2⁶⁴ dials are meant. -/
  generation : Nat
  stats : CacheStats
  /-- All calls, those that are over included; a task is known by its place. -/
  tasks : List (Task κ α)
  events : List (CacheEvent κ)

namespace Cache

variable {κ α : Type} [BackendConfig κ]

/-- A cache without entries. -/
def ofOptions (backend : BackendKind) (options : CacheOptions) (order : EntryOrder := .ofInsertion) :
    Except Error (Cache κ α) := do
  options.check
  .ok ⟨backend, options, order, [], [], 0, .zero, [], []⟩

/-! ### What a cache holds -/

/-- The entry of a target. -/
def entry? (c : Cache κ α) (f : Fingerprint) : Option (Entry κ) :=
  c.entries.find? fun e => e.target.fingerprint == f

/-- All entries, in the order in which a task finds them. -/
def found (c : Cache κ α) (i : Nat) : List (Entry κ) := arrange (c.order i) c.entries

/-- Removes the entry of a target. -/
def erase (c : Cache κ α) (f : Fingerprint) : Cache κ α :=
  { c with entries := c.entries.filter fun e => e.target.fingerprint != f }

/-- Puts an entry in the place of any other of its target. -/
def put (c : Cache κ α) (e : Entry κ) : Cache κ α :=
  { c with entries := (c.erase e.target.fingerprint).entries ++ [e] }

/-- The task that has passed the gate of a target. -/
def first? (c : Cache κ α) (f : Fingerprint) : Option Nat :=
  (c.gates.find? fun p => p.1 == f).map Prod.snd

/-- Puts a task at the end of the line before a gate. -/
def join (c : Cache κ α) (f : Fingerprint) (i : Nat) : Cache κ α :=
  { c with gates := c.gates ++ [(f, i)] }

/-- Takes a task away from the gates. -/
def leave (c : Cache κ α) (i : Nat) : Cache κ α :=
  { c with gates := c.gates.filter fun p => p.2 != i }

def tally (c : Cache κ α) (t : Tally) : Cache κ α :=
  { c with stats := c.stats.record t }

def emit (c : Cache κ α) (e : CacheEvent κ) : Cache κ α :=
  { c with events := c.events ++ [e] }

def log (c : Cache κ α) (e : LogEvent) : Cache κ α :=
  c.emit (.log e)

/-! ### From phase to phase -/

/-- Takes a task to a phase, in which it holds no lock, and sends the request that the phase waits
    for. -/
def goto (c : Cache κ α) (i : Nat) (p : Phase κ α) : Cache κ α :=
  let c := { c with tasks := c.tasks.set i ⟨p, none⟩ }
  match p.request? with
  | some r => c.emit (.request i r)
  | none => c

def finish (c : Cache κ α) (i : Nat) (a : CallAnswer α) : Cache κ α :=
  c.goto i (.finished a)

/-- Probes the next of the entries that were noted. -/
def probeNext (c : Cache κ α) (i : Nat) (rest : List (Entry κ)) (replaced : Nat) : Cache κ α :=
  match rest with
  | [] => c.finish i (.replaced replaced)
  | e :: rest => c.goto i (.pinging e rest replaced)

/-- Closes the handle of an entry that this task has removed. -/
def retire (c : Cache κ α) (i : Nat) (e : Entry κ) (why : Aftermath κ) : Cache κ α :=
  ((c.tally .invalidation).log (Notice.invalidating e.target.kind e.lease)).goto i (.closing e why)

/-- Closes the next of the removed entries. -/
def clearNext (c : Cache κ α) (i : Nat) (rest : List (Entry κ)) : Cache κ α :=
  match rest with
  | [] => c.finish i .cleared
  | e :: rest => c.retire i e (.clear rest)

/-- What follows a failed attempt: one more if the error is one of the connection and this was the
    first attempt, else the error is the answer. -/
def settle (c : Cache κ α) (i : Nat) (target : Target κ) (again : Bool) (e : Error) : Cache κ α :=
  if e.isConnection && !again then
    ((c.tally .retry).log (Notice.retrying target.kind e)).goto i (.looking target (.attempt true))
  else c.finish i (.ran (.error e))

/-- Goes on with a lease. -/
def obtained (c : Cache κ α) (i : Nat) (target : Target κ) (why : Purpose κ) (l : Lease) : Cache κ α :=
  match why with
  | .caller => c.finish i (.leased (.ok l))
  | .attempt again => c.goto i (.operating target again l)
  | .replace rest replaced => c.probeNext i rest (replaced + 1)

/-- Goes on without a lease. -/
def refused (c : Cache κ α) (i : Nat) (target : Target κ) (why : Purpose κ) (e : Error) : Cache κ α :=
  match why with
  | .caller => c.finish i (.leased (.error e))
  | .attempt again => c.settle i target again e
  | .replace rest replaced =>
    (c.log (Notice.redialFailed target.fingerprint e)).probeNext i rest replaced

/-- Goes on after a removal, or where nothing was to be removed. -/
def removed (c : Cache κ α) (i : Nat) (why : Aftermath κ) (found : Bool) : Cache κ α :=
  match why with
  | .caller => c.finish i (.removed found)
  | .attempt target again e => c.settle i target again e
  | .probe target rest replaced =>
    if found then c.goto i (.looking target (.replace rest replaced)) else c.probeNext i rest replaced
  | .clear rest => c.clearNext i rest

/-! ### Steps -/

/-- The work of a phase, done under its lock. -/
def work (c : Cache κ α) (i : Nat) : Phase κ α → Option (Cache κ α)
  | .looking target why =>
    match c.entry? target.fingerprint with
    | some e => some (((c.tally .hit).log (Notice.hit e.lease)).obtained i target why e.lease)
    | none => some ((c.tally .miss).goto i (.queueing target why))
  | .queueing target why => some ((c.join target.fingerprint i).goto i (.rechecking target why))
  | .rechecking target why =>
    match c.entry? target.fingerprint with
    | some e =>
      some (((c.log (Notice.createdConcurrently target.fingerprint)).leave i).obtained i target why
        e.lease)
    | none =>
      match target.check with
      | .error e => some ((c.leave i).refused i target why e)
      | .ok () =>
        some ((c.log (Notice.dialing c.backend target.fingerprint target.pool)).goto i
          (.dialing target why))
  | .inserting e why =>
    some ((((c.put e).log (Notice.established e.target.kind e.lease)).leave i).obtained i e.target why
      e.lease)
  | .removing f =>
    match c.entry? f with
    | some e => some ((c.erase f).retire i e .caller)
    | none => some (c.finish i (.removed false))
  | .removingLease l why =>
    match c.entry? l.fingerprint with
    | some e =>
      if e.generation = l.generation then some ((c.erase l.fingerprint).retire i e why)
      else some ((c.log (Notice.replacedAlready l)).removed i why false)
    | none => some ((c.log (Notice.replacedAlready l)).removed i why false)
  | .draining => some ({ c with entries := [] }.clearNext i (c.found i))
  | .noting => some (c.probeNext i (c.found i) 0)
  | .counting => some (c.finish i (.counted c.entries.length))
  | .containing f => some (c.finish i (.contained (c.entry? f).isSome))
  | .dialing .. | .operating .. | .closing .. | .pinging .. | .finished _ | .dropped => none

/-- No task holds a lock that excludes this one. -/
def lockFree (c : Cache κ α) (l : Lock) : Bool :=
  c.tasks.all fun t => t.lock.all l.compatible

/-- The task stands at no gate, or is the first at its gate. -/
def passed (c : Cache κ α) (i : Nat) (p : Phase κ α) : Bool :=
  p.gate?.all fun f => c.first? f == some i

/-- The next step of a task by itself: taking the lock of its phase, or the work under it. -/
def step (c : Cache κ α) (i : Nat) : Option (Cache κ α) := do
  let t ← c.tasks[i]?
  match t.phase.lock?, t.lock with
  | some l, none =>
    if c.passed i t.phase && c.lockFree l then
      some { c with tasks := c.tasks.set i { t with lock := some l } }
    else none
  | some _, some _ => c.work i t.phase
  | none, _ => none

/-- The error of a dial that took too long. -/
def dialOverdue (c : Cache κ α) : Error :=
  .dial c.backend ("timed out after " ++ Notice.number c.options.dialTimeout.millis ++ "ms") none

/-- The error of an operation that took too long. -/
def operationOverdue (c : Cache κ α) : Error :=
  .timeout ("operation exceeded " ++ Notice.number c.options.operationTimeout.millis ++ "ms")

/-- Errors of dialing and of the configuration are reported as they are, all others as the cause of an
    error of dialing. -/
def asDialError (c : Cache κ α) : Error → Error
  | e@(.dial ..) | e@(.configuration _) => e
  | e => .dial c.backend e.message (some e.message)

def dialFailed (c : Cache κ α) (i : Nat) (target : Target κ) (why : Purpose κ) (e : Error) : Cache κ α :=
  (((c.tally .dialFailure).log (Notice.dialFailed c.backend target.fingerprint e)).leave i).refused i
    target why (c.asDialError e)

/-- Removes the entry on which an operation failed, if it was the connection that failed. -/
def operationFailed (c : Cache κ α) (i : Nat) (target : Target κ) (again : Bool) (l : Lease)
    (e : Error) : Cache κ α :=
  if e.isConnection then c.goto i (.removingLease l (.attempt target again e))
  else c.finish i (.ran (.error e))

def pingFailed (c : Cache κ α) (i : Nat) (e : Entry κ) (rest : List (Entry κ)) (replaced : Nat) :
    Cache κ α :=
  ((c.tally .probeFailure).log (Notice.probeFailed e.target.fingerprint)).goto i
    (.removingLease e.lease (.probe e.target rest replaced))

/-- Takes what the client did for a task. -/
def reply (c : Cache κ α) (i : Nat) (r : Reply α) : Option (Cache κ α) := do
  let t ← c.tasks[i]?
  match t.phase, r with
  | .dialing target why, .success =>
    let e : Entry κ := ⟨target, c.stats.dials + 1, c.generation + 1⟩
    some ({ c.tally .dial with generation := c.generation + 1 }.goto i (.inserting e why))
  | .dialing target why, .failure e => some (c.dialFailed i target why e)
  | .dialing target why, .overdue => some (c.dialFailed i target why c.dialOverdue)
  | .operating _ _ _, .value a => some (c.finish i (.ran (.ok a)))
  | .operating target again l, .failure e => some (c.operationFailed i target again l e)
  | .operating target again l, .overdue => some (c.operationFailed i target again l c.operationOverdue)
  | .pinging _ rest replaced, .success => some (c.probeNext i rest replaced)
  | .pinging e rest replaced, .failure _ | .pinging e rest replaced, .overdue =>
    some (c.pingFailed i e rest replaced)
  | .closing _ why, .success => some ((c.tally .close).removed i why true)
  | .closing e why, .failure err =>
    some (((c.log (Notice.closeFailed e.target.fingerprint err)).tally .close).removed i why true)
  | _, _ => none

/-- Begins a call: its task is the last one. -/
def start (c : Cache κ α) (call : Call κ) : Cache κ α :=
  { c with tasks := c.tasks ++ [⟨.ofCall call, none⟩] }

/-- Gives up a task wherever it stands. -/
def drop (c : Cache κ α) (i : Nat) : Cache κ α :=
  (c.leave i).goto i .dropped

/-- The answer of a call that is over. -/
def answer? (c : Cache κ α) (i : Nat) : Option (CallAnswer α) := do
  (← c.tasks[i]?).phase.answer?

end Cache

end StoreAccess
