import StoreAccess.Cache.Machine
import StoreAccess.Cache.Probe

/-! Runs of a cache with a given client under a clock that moves only when everything waits, and then
    straight to the next thing that is due. What is ready runs in the order in which it became ready,
    each until it has to wait. Times are whole milliseconds. -/

namespace StoreAccess

/-- What a client does about a request: it makes calls on the same cache, then takes its time, and ends
    with a reply, or without one by aborting the task. A call that yields no lease ends it with the
    error of that call. -/
structure Conduct (κ α : Type) where
  calls : List (Call κ)
  delay : Nat
  reply : Option (Reply α)

/-- A client: what it does about a request of a task, and what it has become after that. -/
structure Client (κ α σ : Type) where
  conduct : σ → Nat → Request κ → σ × Conduct κ α

/-- Who waits for the end of a task. -/
inductive Owner (κ α : Type) where
  | caller
  | probe (p : Nat)
  /-- The operation that another task runs; the rest of it. -/
  | operation (task : Nat) (rest : Conduct κ α)

/-- What can be ready to run. -/
inductive Runner where
  | task (i : Nat)
  | probe (p : Nat)

/-- What can be due at a time. -/
inductive Due (α : Type) where
  | start (i : Nat)
  | reply (i : Nat) (r : Option (Reply α))
  | tick (p : Nat)
  | alarm (n : Nat)

namespace Due

variable {α : Type}

/-- It is a reply to the task. -/
def isReplyTo (i : Nat) : Due α → Bool
  | reply j _ => i == j
  | _ => false

end Due

structure Timeline (κ α σ : Type) [BackendConfig κ] where
  cache : Cache κ α
  /-- The cache was given up by its owner. -/
  gone : Bool
  client : σ
  now : Nat
  ready : List Runner
  /-- What is due when, in the order of the times. -/
  agenda : List (Nat × Due α)
  /-- Who waits for each task. -/
  owners : List (Owner κ α)
  probes : List Probe
  /-- The configurations of the handles, in the order in which these were dialed. -/
  dialed : List κ
  /-- The tasks that are over, and since when. -/
  ended : List (Nat × Nat)
  /-- How many alarms were set. -/
  alarms : Nat
  /-- The alarms that have gone off. -/
  rung : List Nat
  /-- Everything that others could see, and when. -/
  trace : List (Nat × CacheEvent κ)

namespace Timeline

variable {κ α σ : Type} [BackendConfig κ]

def ofCache (cache : Cache κ α) (client : σ) : Timeline κ α σ :=
  ⟨cache, false, client, 0, [], [], [], [], [], [], 0, [], []⟩

def nowTime (w : Timeline κ α σ) : Duration := .ofMillis w.now

/-- The first whole millisecond at or after a time. -/
def roundUp (d : Duration) : Nat := (d.nanos + 999999) / 1000000

/-- Takes over a changed cache, and what it let others see. -/
def update (w : Timeline κ α σ) (c : Cache κ α) : Timeline κ α σ :=
  { w with cache := { c with events := [] }, trace := w.trace ++ c.events.map fun e => (w.now, e) }

def log (w : Timeline κ α σ) (e : LogEvent) : Timeline κ α σ :=
  { w with trace := w.trace ++ [(w.now, .log e)] }

/-- Runs something next. -/
def soon (w : Timeline κ α σ) (r : Runner) : Timeline κ α σ := { w with ready := r :: w.ready }

/-- Runs something after all that is ready. -/
def later (w : Timeline κ α σ) (r : Runner) : Timeline κ α σ := { w with ready := w.ready ++ [r] }

def insertDue (time : Nat) (d : Due α) : List (Nat × Due α) → List (Nat × Due α)
  | [] => [(time, d)]
  | x :: rest => if x.1 ≤ time then x :: insertDue time d rest else (time, d) :: x :: rest

def plan (w : Timeline κ α σ) (time : Nat) (d : Due α) : Timeline κ α σ :=
  { w with agenda := insertDue time d w.agenda }

/-- Forgets the replies that are still due to a task. -/
def unplan (w : Timeline κ α σ) (i : Nat) : Timeline κ α σ :=
  { w with agenda := w.agenda.filter fun x => !x.2.isReplyTo i }

def phase? (w : Timeline κ α σ) (i : Nat) : Option (Phase κ α) :=
  (w.cache.tasks[i]?).map Task.phase

/-- The task that is let through a gate by the change from one cache to another. -/
def letThrough? (before after : Cache κ α) (f : Fingerprint) : Option Nat :=
  (after.first? f).filter fun j => before.first? f != some j

/-- Takes over a cache that a task has changed. Whoever is let through the gate where the task stood is
    ready then. -/
def change (w : Timeline κ α σ) (i : Nat) (c : Cache κ α) : Timeline κ α σ :=
  match ((w.phase? i).bind Phase.gate?).bind (letThrough? w.cache c) with
  | some j => (w.update c).later (.task j)
  | none => w.update c

/-! ### Tasks -/

/-- Begins a call, which runs next. -/
def begin (w : Timeline κ α σ) (call : Call κ) (owner : Owner κ α) : Timeline κ α σ :=
  let i := w.cache.tasks.length
  { w with cache := w.cache.start call, owners := w.owners ++ [owner] }.soon (.task i)

/-- Begins a call, which runs after a time. -/
def beginAfter (w : Timeline κ α σ) (delay : Nat) (call : Call κ) : Timeline κ α σ :=
  let i := w.cache.tasks.length
  let w := { w with cache := w.cache.start call, owners := w.owners ++ [Owner.caller] }
  if delay = 0 then w.later (.task i) else w.plan (w.now + delay) (.start i)

/-- Gives a task the reply it waits for; the task runs next. -/
def give (w : Timeline κ α σ) (i : Nat) (r : Reply α) : Timeline κ α σ :=
  match w.cache.reply i r with
  | none => w
  | some c =>
    let w := match w.phase? i, r with
      | some (.dialing target _), .success => { w with dialed := w.dialed ++ [target.config] }
      | _, _ => w
    ((w.unplan i).change i c).soon (.task i)

/-- Gives up a task, and whatever was due to it. -/
def dropTask (w : Timeline κ α σ) (i : Nat) : Timeline κ α σ :=
  (w.unplan i).change i (w.cache.drop i)

/-- The tasks that the operation of a task runs. -/
def childrenOf (w : Timeline κ α σ) (i : Nat) : List Nat :=
  (List.range w.owners.length).filter fun j =>
    (w.cache.answer? j).isNone && match w.owners[j]? with
      | some (.operation k _) => k == i
      | _ => false

/-- Aborts a task in the middle of a request. -/
def abort (w : Timeline κ α σ) (i : Nat) : Timeline κ α σ :=
  let w := w.dropTask i
  match w.owners[i]? with
  | some (.probe p) =>
    { w with probes := w.probes.modify p fun x => { x with state := .ended true } }
  | _ => { w with ended := w.ended ++ [(i, w.now)] }

/-- Ends a request with a reply, or by aborting the task. -/
def conclude (w : Timeline κ α σ) (i : Nat) (r : Option (Reply α)) : Timeline κ α σ :=
  match r with
  | some r => w.give i r
  | none => w.abort i

/-- The rest of a request after its calls: a reply at once or after its delay, unless its time is over
    before. -/
def answerAfter (w : Timeline κ α σ) (i : Nat) (delay : Nat) (r : Option (Reply α)) :
    Timeline κ α σ :=
  if delay = 0 then w.conclude i r
  else
    match w.agenda.find? fun x => x.2.isReplyTo i with
    | some (limit, _) =>
      if w.now + delay ≤ limit then (w.unplan i).plan (w.now + delay) (.reply i r) else w
    | none => w.plan (w.now + delay) (.reply i r)

/-- Goes on with what the client does about the request of a task. -/
def proceed (w : Timeline κ α σ) (i : Nat) (c : Conduct κ α) : Timeline κ α σ :=
  match c.calls with
  | [] => w.answerAfter i c.delay c.reply
  | call :: rest => w.begin call (.operation i { c with calls := rest })

/-- Sends the request of a task to the client. -/
def send (w : Timeline κ α σ) (client : Client κ α σ) (i : Nat) (r : Request κ) : Timeline κ α σ :=
  let (s, conduct) := client.conduct w.client i r
  let w := { w with client := s }
  let w := match r.limit? w.cache.options with
    | some limit => w.plan (w.now + roundUp limit) (.reply i (some .overdue))
    | none => w
  w.proceed i conduct

/-! ### Probes -/

def setProbe (w : Timeline κ α σ) (p : Nat) (state : ProbeState) : Timeline κ α σ :=
  { w with probes := w.probes.modify p fun x => { x with state := state } }

def endProbe (w : Timeline κ α σ) (p : Nat) : Timeline κ α σ :=
  (w.setProbe p (.ended false)).log Notice.probeStopped

/-- Lets a probe wait for a tick. -/
def awaitTick (w : Timeline κ α σ) (p : Nat) (tick : Duration) : Timeline κ α σ :=
  let w := w.setProbe p (.waiting tick)
  if w.now < roundUp tick then w.plan (roundUp tick) (.tick p) else w

def runProbe (w : Timeline κ α σ) (p : Nat) : Timeline κ α σ :=
  match w.probes[p]? with
  | none => w
  | some x =>
    match x.state with
    | .fresh =>
      if x.stopped then w.endProbe p else w.awaitTick p ⟨w.nowTime.nanos + x.interval.nanos⟩
    | .waiting tick =>
      if x.stopped then w.endProbe p
      else if w.now < roundUp tick then w
      else if w.gone then w.endProbe p
      else (w.setProbe p (.probing (x.nextTick tick w.nowTime))).begin .probeOnce (.probe p)
    | .probing _ | .ended _ => w

/-- Goes on with a probe after a round. -/
def probed (w : Timeline κ α σ) (p : Nat) (replaced : Nat) : Timeline κ α σ :=
  let w := if 0 < replaced then w.log (Notice.probeReplaced replaced) else w
  match w.probes[p]? with
  | some ⟨_, .probing next, _⟩ => (w.awaitTick p next).soon (.probe p)
  | _ => w

/-! ### Turns -/

/-- Tells whoever waits for a task that it is over. -/
def notify (w : Timeline κ α σ) (i : Nat) (a : CallAnswer α) : Timeline κ α σ :=
  match w.owners[i]?, a with
  | some (.probe p), .replaced n => w.probed p n
  | some (.operation j _), .leased (.error e) => w.give j (.failure e)
  | some (.operation j rest), _ => w.proceed j rest
  | _, _ => { w with ended := w.ended ++ [(i, w.now)] }

def runTask (w : Timeline κ α σ) (client : Client κ α σ) (i : Nat) : Timeline κ α σ :=
  match w.cache.step i with
  | some c => (w.change i c).soon (.task i)
  | none =>
    match w.phase? i with
    | none => w
    | some p =>
      match p.answer?, p.request? with
      | some a, _ => w.notify i a
      | none, some r => w.send client i r
      | none, none => w

/-- What is due happens. An operation whose time is over takes the calls it made with it. -/
def happen (w : Timeline κ α σ) : Due α → Timeline κ α σ
  | .start i => w.later (.task i)
  | .reply i r => ((w.childrenOf i).foldl dropTask w).conclude i r
  | .tick p => w.later (.probe p)
  | .alarm n => { w with rung := w.rung ++ [n] }

/-- One turn: what is ready runs, and if nothing is, the next thing that is due happens. -/
def turn (w : Timeline κ α σ) (client : Client κ α σ) : Option (Timeline κ α σ) :=
  match w.ready with
  | .task i :: rest => some ({ w with ready := rest }.runTask client i)
  | .probe p :: rest => some ({ w with ready := rest }.runProbe p)
  | [] =>
    match w.agenda with
    | [] => none
    | (time, d) :: rest => some ({ w with now := time, agenda := rest }.happen d)

/-- Turns until a condition holds, or nothing is left to happen. -/
def turns (client : Client κ α σ) (until_ : Timeline κ α σ → Bool) :
    (fuel : Nat) → Timeline κ α σ → Timeline κ α σ
  | 0, w => w
  | fuel + 1, w =>
    if until_ w then w
    else
      match w.turn client with
      | some w => turns client until_ fuel w
      | none => w

/-- More turns than any run takes. -/
def patience : Nat := Nat.pow 2 60

def run (w : Timeline κ α σ) (client : Client κ α σ) (until_ : Timeline κ α σ → Bool) :
    Timeline κ α σ :=
  turns client until_ patience w

def isEnded (w : Timeline κ α σ) (i : Nat) : Bool := w.ended.any fun e => e.1 == i

def hasRung (w : Timeline κ α σ) (n : Nat) : Bool := w.rung.contains n

/-! ### What a caller does -/

/-- Makes a call and waits for its answer. -/
def call (w : Timeline κ α σ) (client : Client κ α σ) (c : Call κ) :
    Timeline κ α σ × Option (CallAnswer α) :=
  let i := w.cache.tasks.length
  let w := (w.begin c .caller).run client fun w => w.isEnded i
  (w, w.cache.answer? i)

/-- Sets an alarm. -/
def setAlarm (w : Timeline κ α σ) (delay : Nat) : Timeline κ α σ :=
  let n := w.alarms
  let w := { w with alarms := n + 1 }
  if delay = 0 then { w with rung := w.rung ++ [n] } else w.plan (w.now + delay) (.alarm n)

/-- Waits for a time. -/
def sleep (w : Timeline κ α σ) (client : Client κ α σ) (delay : Nat) : Timeline κ α σ :=
  let n := w.alarms
  (w.setAlarm delay).run client fun w => w.hasRung n

/-- Starts a probe, which first runs when the caller next waits. -/
def spawn (w : Timeline κ α σ) (p : Probe) : Timeline κ α σ :=
  { w with probes := w.probes ++ [p] }.later (.probe w.probes.length)

/-- Tells a probe to stop. -/
def dropProbe (w : Timeline κ α σ) (p : Nat) : Timeline κ α σ :=
  { w with probes := w.probes.modify p fun x => { x with stopped := true } }.later (.probe p)

/-- Waits for the end of a probe. -/
def joinProbe (w : Timeline κ α σ) (client : Client κ α σ) (p : Nat) : Timeline κ α σ :=
  w.run client fun w => (w.probes[p]?).all Probe.isEnded

/-- Tells a probe to stop and waits for its end. -/
def stopProbe (w : Timeline κ α σ) (client : Client κ α σ) (p : Nat) : Timeline κ α σ :=
  let w := (w.dropProbe p).joinProbe client p
  if (w.probes[p]?).any Probe.hasPanicked then w.log Notice.probePanicked else w

/-- Gives up the cache and waits for the end of some probes. -/
def giveUp (w : Timeline κ α σ) (client : Client κ α σ) (probes : List Nat) : Timeline κ α σ :=
  probes.foldl (fun w p => w.joinProbe client p) { w with gone := true }

end Timeline

end StoreAccess
