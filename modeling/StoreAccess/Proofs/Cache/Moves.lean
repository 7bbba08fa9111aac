import StoreAccess.Cache.Machine
import StoreAccess.Proofs.Data.Lists

/-! What can happen to a cache, move by move: calls begin, tasks take their steps in any order, the client
    answers requests and callers give calls up. `Does` says of each kind of move what it finds, which
    phase its task enters and what it changes besides the log and the counts. Every invariant of the
    cache is a case split over it. -/

namespace StoreAccess

namespace Entry

variable {κ : Type} [BackendConfig κ]

@[simp] theorem lease_handle (e : Entry κ) : e.lease.handle = e.handle := rfl

@[simp] theorem lease_fingerprint (e : Entry κ) : e.lease.fingerprint = e.target.fingerprint := rfl

@[simp] theorem lease_generation (e : Entry κ) : e.lease.generation = e.generation := rfl

end Entry

/-! ### Orders -/

section
variable {β : Type} {l m : List β}

theorem perm_arrange (places : List Nat) (l : List β) : (arrange places l).Perm l := by
  unfold arrange
  split
  · rename_i named
    have reordered := (List.isPerm_iff.mp named).filterMap fun place => l[place]?
    rwa [filterMap_range] at reordered
  · exact .refl l

/-- Each order is one in which a list can be arranged. -/
theorem exists_arrange (reordered : m.Perm l) : ∃ places, arrange places l = m := by
  have inPlace : List.Forall₂ (fun x place => l[place]? = some x) l (List.range l.length) := by
    rw [List.forall₂_iff_get]
    simp
  obtain ⟨places, named, perm⟩ := List.perm_comp_forall₂ reordered inPlace
  refine ⟨places, ?_⟩
  rw [arrange, if_pos (List.isPerm_iff.mpr perm)]
  clear perm reordered inPlace
  induction named with
  | nil => rfl
  | cons head _ ih => rw [List.filterMap_cons_some head, ih]

end

theorem Cache.perm_found {κ α : Type} [BackendConfig κ] (c : Cache κ α) (i : Nat) : (c.found i).Perm c.entries :=
  perm_arrange _ _

/-! ### Where a task goes next -/

namespace Phase

variable {κ α : Type} [BackendConfig κ]

/-- The call is over, or was given up. -/
def isOver : Phase κ α → Bool
  | finished _ | dropped => true
  | _ => false

/-- On to the probe of the next of the noted entries. -/
def toPing (rest : List (Entry κ)) (replaced : Nat) : Phase κ α :=
  match rest with
  | [] => finished (.replaced replaced)
  | e :: rest => pinging e rest replaced

/-- On to the next of the removed entries. -/
def toClose (rest : List (Entry κ)) : Phase κ α :=
  match rest with
  | [] => finished .cleared
  | e :: rest => closing e (.clear rest)

def afterFailure (target : Target κ) (again : Bool) (e : Error) : Phase κ α :=
  if e.isConnection && !again then looking target (.attempt true) else finished (.ran (.error e))

def afterLease (target : Target κ) (why : Purpose κ) (l : Lease) : Phase κ α :=
  match why with
  | .caller => finished (.leased (.ok l))
  | .attempt again => operating target again l
  | .replace rest replaced => toPing rest (replaced + 1)

def afterRefusal (target : Target κ) (why : Purpose κ) (e : Error) : Phase κ α :=
  match why with
  | .caller => finished (.leased (.error e))
  | .attempt again => afterFailure target again e
  | .replace rest replaced => toPing rest replaced

def afterRemoval (why : Aftermath κ) (found : Bool) : Phase κ α :=
  match why with
  | .caller => finished (.removed found)
  | .attempt target again e => afterFailure target again e
  | .probe target rest replaced =>
    if found then looking target (.replace rest replaced) else toPing rest replaced
  | .clear rest => toClose rest

def afterOperation (target : Target κ) (again : Bool) (l : Lease) (e : Error) : Phase κ α :=
  if e.isConnection then removingLease l (.attempt target again e) else finished (.ran (.error e))

end Phase

/-- The request that an event is. -/
def CacheEvent.request? {κ : Type} : CacheEvent κ → Option (Nat × Request κ)
  | .request i r => some (i, r)
  | .log _ => none

/-- What can happen to a cache. -/
inductive Move (κ α : Type) where
  | start (call : Call κ)
  | step (task : Nat)
  | reply (task : Nat) (r : Reply α)
  /-- The caller gives up a call that is not over. -/
  | drop (task : Nat)

namespace Cache

variable {κ α : Type} [BackendConfig κ]

def phase? (c : Cache κ α) (i : Nat) : Option (Phase κ α) := (c.tasks[i]?).map Task.phase

/-- The requests that were sent to the client, each with the task that sent it. -/
def requests (c : Cache κ α) : List (Nat × Request κ) := c.events.filterMap CacheEvent.request?

/-- The cache after a move, if the move is possible. -/
def move (c : Cache κ α) : Move κ α → Option (Cache κ α)
  | .start call => some (c.start call)
  | .step i => c.step i
  | .reply i r => c.reply i r
  | .drop i => (c.phase? i).bind fun p => if p.isOver then none else some (c.drop i)

/-! ### Entering a phase -/

/-- `d` is `c` once task `i` has entered phase `p` and sent its request; the log and the counts aside,
    nothing else differs. -/
structure Enters (c : Cache κ α) (i : Nat) (p : Phase κ α) (d : Cache κ α) : Prop where
  backend : d.backend = c.backend
  options : d.options = c.options
  entries : d.entries = c.entries
  gates : d.gates = c.gates
  generation : d.generation = c.generation
  dials : d.stats.dials = c.stats.dials
  tasks : d.tasks = c.tasks.set i ⟨p, none⟩
  requests : d.requests = c.requests ++ (p.request?.map (i, ·)).toList

theorem requests_emit (c : Cache κ α) (e : CacheEvent κ) :
    (c.emit e).requests = c.requests ++ e.request?.toList := by
  simp only [requests, emit, List.filterMap_append]
  cases e <;> rfl

theorem enters_goto (c : Cache κ α) (i : Nat) (p : Phase κ α) : c.Enters i p (c.goto i p) := by
  unfold goto
  cases hp : p.request? with
  | none => exact ⟨rfl, rfl, rfl, rfl, rfl, rfl, rfl, by simp [hp, requests]⟩
  | some r => exact ⟨rfl, rfl, rfl, rfl, rfl, rfl, rfl, by rw [requests_emit, hp]; rfl⟩

namespace Enters
variable {c d : Cache κ α} {i : Nat} {p : Phase κ α}

theorem log {e : LogEvent} (h : (c.log e).Enters i p d) : c.Enters i p d where
  backend := h.backend
  options := h.options
  entries := h.entries
  gates := h.gates
  generation := h.generation
  dials := h.dials
  tasks := h.tasks
  requests := by
    have hlog : (c.log e).requests = c.requests := by simp [Cache.log, requests_emit, CacheEvent.request?]
    rw [h.requests, hlog]

/-- Counting anything but a dial is no change. -/
theorem tally {t : Tally} (ht : t ≠ .dial) (h : (c.tally t).Enters i p d) : c.Enters i p d where
  backend := h.backend
  options := h.options
  entries := h.entries
  gates := h.gates
  generation := h.generation
  dials := by
    rw [h.dials]
    cases t <;> first | rfl | exact absurd rfl ht
  tasks := h.tasks
  requests := h.requests

end Enters

theorem enters_finish (c : Cache κ α) (i : Nat) (a : CallAnswer α) :
    c.Enters i (.finished a) (c.finish i a) := enters_goto c i _

theorem enters_probeNext (c : Cache κ α) (i : Nat) (rest : List (Entry κ)) (replaced : Nat) :
    c.Enters i (.toPing rest replaced) (c.probeNext i rest replaced) := by
  cases rest <;> exact enters_goto c i _

theorem enters_retire (c : Cache κ α) (i : Nat) (e : Entry κ) (why : Aftermath κ) :
    c.Enters i (.closing e why) (c.retire i e why) :=
  Enters.tally (t := .invalidation) (by simp) (enters_goto _ i _).log

theorem enters_clearNext (c : Cache κ α) (i : Nat) (rest : List (Entry κ)) :
    c.Enters i (.toClose rest) (c.clearNext i rest) := by
  cases rest with
  | nil => exact enters_finish c i _
  | cons e rest => exact enters_retire c i e _

theorem enters_settle (c : Cache κ α) (i : Nat) (target : Target κ) (again : Bool) (e : Error) :
    c.Enters i (.afterFailure target again e) (c.settle i target again e) := by
  unfold settle Phase.afterFailure
  split
  · exact Enters.tally (t := .retry) (by simp) (enters_goto _ i _).log
  · exact enters_finish c i _

theorem enters_obtained (c : Cache κ α) (i : Nat) (target : Target κ) (why : Purpose κ) (l : Lease) :
    c.Enters i (.afterLease target why l) (c.obtained i target why l) := by
  cases why with
  | caller => exact enters_finish c i _
  | attempt again => exact enters_goto c i _
  | replace rest replaced => exact enters_probeNext c i rest _

theorem enters_refused (c : Cache κ α) (i : Nat) (target : Target κ) (why : Purpose κ) (e : Error) :
    c.Enters i (.afterRefusal target why e) (c.refused i target why e) := by
  cases why with
  | caller => exact enters_finish c i _
  | attempt again => exact enters_settle c i target again e
  | replace rest replaced => exact (enters_probeNext _ i rest replaced).log

theorem enters_removed (c : Cache κ α) (i : Nat) (why : Aftermath κ) (found : Bool) :
    c.Enters i (.afterRemoval why found) (c.removed i why found) := by
  cases why with
  | caller => exact enters_finish c i _
  | attempt target again e => exact enters_settle c i target again e
  | probe target rest replaced =>
    cases found
    · exact enters_probeNext c i rest replaced
    · exact enters_goto c i _
  | clear rest => exact enters_clearNext c i rest

/-! ### What each move does -/

/-- The cache after a dial: one more handle, one more generation. -/
def handleMade (c : Cache κ α) : Cache κ α :=
  { c.tally .dial with generation := c.generation + 1 }

/-- The entry for a handle that was just dialed. -/
def newEntry (c : Cache κ α) (target : Target κ) : Entry κ := ⟨target, c.stats.dials + 1, c.generation + 1⟩

/-- What a move finds and does. -/
inductive Does (c : Cache κ α) : Move κ α → Cache κ α → Prop
  | start {call : Call κ} : Does c (.start call) (c.start call)
  /-- A task takes the lock of its phase. -/
  | lock {i : Nat} {p : Phase κ α} {l : Lock} (task : c.tasks[i]? = some ⟨p, none⟩)
      (needs : p.lock? = some l) (passed : c.passed i p = true) (free : c.lockFree l = true) :
      Does c (.step i) { c with tasks := c.tasks.set i ⟨p, some l⟩ }
  /-- The entry of the target is there. -/
  | hit {i : Nat} {target : Target κ} {why : Purpose κ} {l : Lock} {e : Entry κ} {d : Cache κ α}
      (task : c.tasks[i]? = some ⟨.looking target why, some l⟩)
      (entry : c.entry? target.fingerprint = some e)
      (enters : c.Enters i (.afterLease target why e.lease) d) : Does c (.step i) d
  | miss {i : Nat} {target : Target κ} {why : Purpose κ} {l : Lock} {d : Cache κ α}
      (task : c.tasks[i]? = some ⟨.looking target why, some l⟩)
      (entry : c.entry? target.fingerprint = none)
      (enters : c.Enters i (.queueing target why) d) : Does c (.step i) d
  | queue {i : Nat} {target : Target κ} {why : Purpose κ} {l : Lock} {d : Cache κ α}
      (task : c.tasks[i]? = some ⟨.queueing target why, some l⟩)
      (enters : (c.join target.fingerprint i).Enters i (.rechecking target why) d) : Does c (.step i) d
  /-- Someone else has put the entry in. -/
  | share {i : Nat} {target : Target κ} {why : Purpose κ} {l : Lock} {e : Entry κ} {d : Cache κ α}
      (task : c.tasks[i]? = some ⟨.rechecking target why, some l⟩)
      (entry : c.entry? target.fingerprint = some e)
      (enters : (c.leave i).Enters i (.afterLease target why e.lease) d) : Does c (.step i) d
  /-- The target fails its check. -/
  | reject {i : Nat} {target : Target κ} {why : Purpose κ} {l : Lock} {err : Error} {d : Cache κ α}
      (task : c.tasks[i]? = some ⟨.rechecking target why, some l⟩)
      (entry : c.entry? target.fingerprint = none) (check : target.check = .error err)
      (enters : (c.leave i).Enters i (.afterRefusal target why err) d) : Does c (.step i) d
  | dial {i : Nat} {target : Target κ} {why : Purpose κ} {l : Lock} {d : Cache κ α}
      (task : c.tasks[i]? = some ⟨.rechecking target why, some l⟩)
      (entry : c.entry? target.fingerprint = none) (check : target.check = .ok ())
      (enters : c.Enters i (.dialing target why) d) : Does c (.step i) d
  | insert {i : Nat} {e : Entry κ} {why : Purpose κ} {l : Lock} {d : Cache κ α}
      (task : c.tasks[i]? = some ⟨.inserting e why, some l⟩)
      (enters : ((c.put e).leave i).Enters i (.afterLease e.target why e.lease) d) : Does c (.step i) d
  | remove {i : Nat} {f : Fingerprint} {l : Lock} {e : Entry κ} {d : Cache κ α}
      (task : c.tasks[i]? = some ⟨.removing f, some l⟩) (entry : c.entry? f = some e)
      (enters : (c.erase f).Enters i (.closing e .caller) d) : Does c (.step i) d
  | removeNone {i : Nat} {f : Fingerprint} {l : Lock} {d : Cache κ α}
      (task : c.tasks[i]? = some ⟨.removing f, some l⟩) (entry : c.entry? f = none)
      (enters : c.Enters i (.finished (.removed false)) d) : Does c (.step i) d
  /-- The entry that a lease came from is still there. -/
  | evict {i : Nat} {lease : Lease} {why : Aftermath κ} {l : Lock} {e : Entry κ} {d : Cache κ α}
      (task : c.tasks[i]? = some ⟨.removingLease lease why, some l⟩)
      (entry : c.entry? lease.fingerprint = some e) (same : e.generation = lease.generation)
      (enters : (c.erase lease.fingerprint).Enters i (.closing e why) d) : Does c (.step i) d
  | evictNone {i : Nat} {lease : Lease} {why : Aftermath κ} {l : Lock} {d : Cache κ α}
      (task : c.tasks[i]? = some ⟨.removingLease lease why, some l⟩)
      (entry : ∀ e, c.entry? lease.fingerprint = some e → e.generation ≠ lease.generation)
      (enters : c.Enters i (.afterRemoval why false) d) : Does c (.step i) d
  /-- All entries are taken, in whichever order they are found. -/
  | drain {i : Nat} {l : Lock} {es : List (Entry κ)} {d : Cache κ α}
      (task : c.tasks[i]? = some ⟨.draining, some l⟩) (all : es.Perm c.entries)
      (enters : { c with entries := [] }.Enters i (.toClose es) d) : Does c (.step i) d
  | note {i : Nat} {l : Lock} {es : List (Entry κ)} {d : Cache κ α}
      (task : c.tasks[i]? = some ⟨.noting, some l⟩) (all : es.Perm c.entries)
      (enters : c.Enters i (.toPing es 0) d) : Does c (.step i) d
  | count {i : Nat} {l : Lock} {d : Cache κ α} (task : c.tasks[i]? = some ⟨.counting, some l⟩)
      (enters : c.Enters i (.finished (.counted c.entries.length)) d) : Does c (.step i) d
  | contain {i : Nat} {f : Fingerprint} {l : Lock} {d : Cache κ α}
      (task : c.tasks[i]? = some ⟨.containing f, some l⟩)
      (enters : c.Enters i (.finished (.contained (c.entry? f).isSome)) d) : Does c (.step i) d
  | dialed {i : Nat} {target : Target κ} {why : Purpose κ} {l : Option Lock} {d : Cache κ α}
      (task : c.tasks[i]? = some ⟨.dialing target why, l⟩)
      (enters : c.handleMade.Enters i (.inserting (c.newEntry target) why) d) :
      Does c (.reply i .success) d
  | undialed {i : Nat} {target : Target κ} {why : Purpose κ} {l : Option Lock} {r : Reply α} {err : Error}
      {d : Cache κ α} (task : c.tasks[i]? = some ⟨.dialing target why, l⟩)
      (reply : r = .failure err ∨ r = .overdue ∧ err = c.dialOverdue)
      (enters : (c.leave i).Enters i (.afterRefusal target why (c.asDialError err)) d) :
      Does c (.reply i r) d
  | operated {i : Nat} {target : Target κ} {again : Bool} {lease : Lease} {l : Option Lock} {a : α}
      {d : Cache κ α} (task : c.tasks[i]? = some ⟨.operating target again lease, l⟩)
      (enters : c.Enters i (.finished (.ran (.ok a))) d) : Does c (.reply i (.value a)) d
  | failed {i : Nat} {target : Target κ} {again : Bool} {lease : Lease} {l : Option Lock} {r : Reply α}
      {err : Error} {d : Cache κ α} (task : c.tasks[i]? = some ⟨.operating target again lease, l⟩)
      (reply : r = .failure err ∨ r = .overdue ∧ err = c.operationOverdue)
      (enters : c.Enters i (.afterOperation target again lease err) d) : Does c (.reply i r) d
  | pinged {i : Nat} {e : Entry κ} {rest : List (Entry κ)} {replaced : Nat} {l : Option Lock}
      {d : Cache κ α} (task : c.tasks[i]? = some ⟨.pinging e rest replaced, l⟩)
      (enters : c.Enters i (.toPing rest replaced) d) : Does c (.reply i .success) d
  | unpinged {i : Nat} {e : Entry κ} {rest : List (Entry κ)} {replaced : Nat} {l : Option Lock}
      {r : Reply α} {d : Cache κ α} (task : c.tasks[i]? = some ⟨.pinging e rest replaced, l⟩)
      (reply : (∃ err, r = .failure err) ∨ r = .overdue)
      (enters : c.Enters i (.removingLease e.lease (.probe e.target rest replaced)) d) :
      Does c (.reply i r) d
  | closed {i : Nat} {e : Entry κ} {why : Aftermath κ} {l : Option Lock} {r : Reply α} {d : Cache κ α}
      (task : c.tasks[i]? = some ⟨.closing e why, l⟩) (reply : r = .success ∨ ∃ err, r = .failure err)
      (enters : c.Enters i (.afterRemoval why true) d) : Does c (.reply i r) d
  | drop {i : Nat} {p : Phase κ α} {l : Option Lock} {d : Cache κ α} (task : c.tasks[i]? = some ⟨p, l⟩)
      (ended : p.isOver = false) (enters : (c.leave i).Enters i .dropped d) : Does c (.drop i) d

variable {c d : Cache κ α} {i : Nat}

theorem does_of_work {p : Phase κ α} {l : Lock} (ht : c.tasks[i]? = some ⟨p, some l⟩)
    (hw : c.work i p = some d) : c.Does (.step i) d := by
  cases p with
  | looking target why =>
    simp only [work] at hw
    split at hw <;> cases hw
    · exact .hit ht ‹_› (Enters.tally (t := .hit) (by simp) (enters_obtained _ i target why _).log)
    · exact .miss ht ‹_› (Enters.tally (t := .miss) (by simp) (enters_goto _ i _))
  | queueing target why =>
    simp only [work] at hw
    cases hw
    exact .queue ht (enters_goto _ i _)
  | rechecking target why =>
    simp only [work] at hw
    split at hw
    · cases hw
      exact .share ht ‹_› (Enters.log (c := c.leave i) (enters_obtained _ i target why _))
    · split at hw <;> cases hw
      · exact .reject ht ‹_› ‹_› (enters_refused _ i target why _)
      · exact .dial ht ‹_› ‹_› (enters_goto _ i _).log
  | inserting e why =>
    simp only [work] at hw
    cases hw
    exact .insert ht (Enters.log (c := (c.put e).leave i) (enters_obtained _ i e.target why _))
  | removing f =>
    simp only [work] at hw
    split at hw <;> cases hw
    · exact .remove ht ‹_› (enters_retire _ i _ _)
    · exact .removeNone ht ‹_› (enters_finish c i _)
  | removingLease lease why =>
    simp only [work] at hw
    split at hw
    · rename_i e he
      split at hw <;> cases hw
      · exact .evict ht he ‹_› (enters_retire _ i e why)
      · rename_i hne
        refine .evictNone ht (fun e' he' => ?_) (enters_removed _ i why false).log
        rw [he] at he'
        cases he'
        exact hne
    · rename_i he
      cases hw
      exact .evictNone ht (fun e' he' => by rw [he] at he'; cases he') (enters_removed _ i why false).log
  | draining =>
    simp only [work] at hw
    cases hw
    exact .drain ht (c.perm_found i) (enters_clearNext _ i _)
  | noting =>
    simp only [work] at hw
    cases hw
    exact .note ht (c.perm_found i) (enters_probeNext c i _ 0)
  | counting =>
    simp only [work] at hw
    cases hw
    exact .count ht (enters_finish c i _)
  | containing f =>
    simp only [work] at hw
    cases hw
    exact .contain ht (enters_finish c i _)
  | dialing | operating | closing | pinging | finished | dropped => cases hw

theorem does_of_step (h : c.step i = some d) : c.Does (.step i) d := by
  simp only [step, Option.bind_eq_bind, Option.bind_eq_some_iff] at h
  obtain ⟨⟨p, lock⟩, ht, h⟩ := h
  cases hl : p.lock? <;> cases lock <;> simp only [hl] at h
  · cases h
  · cases h
  · split at h <;> cases h
    rename_i hfree
    rw [Bool.and_eq_true] at hfree
    exact .lock ht hl hfree.1 hfree.2
  · exact does_of_work ht h

theorem enters_dialFailed (c : Cache κ α) (i : Nat) (target : Target κ) (why : Purpose κ) (e : Error) :
    (c.leave i).Enters i (.afterRefusal target why (c.asDialError e)) (c.dialFailed i target why e) :=
  Enters.tally (c := c.leave i) (t := .dialFailure) (by simp)
    (Enters.log (c := (c.leave i).tally .dialFailure) (enters_refused _ i target why _))

theorem enters_operationFailed (c : Cache κ α) (i : Nat) (target : Target κ) (again : Bool) (l : Lease)
    (e : Error) : c.Enters i (.afterOperation target again l e) (c.operationFailed i target again l e) := by
  unfold operationFailed Phase.afterOperation
  split
  · exact enters_goto c i _
  · exact enters_finish c i _

theorem enters_pingFailed (c : Cache κ α) (i : Nat) (e : Entry κ) (rest : List (Entry κ))
    (replaced : Nat) :
    c.Enters i (.removingLease e.lease (.probe e.target rest replaced)) (c.pingFailed i e rest replaced) :=
  Enters.tally (t := .probeFailure) (by simp) (enters_goto _ i _).log

theorem does_of_reply {r : Reply α} (h : c.reply i r = some d) : c.Does (.reply i r) d := by
  simp only [reply, Option.bind_eq_bind, Option.bind_eq_some_iff] at h
  obtain ⟨⟨p, l⟩, ht, h⟩ := h
  dsimp only at h
  split at h <;> cases h
  · exact .dialed ht (enters_goto c.handleMade i _)
  · exact .undialed ht (.inl rfl) (enters_dialFailed c i _ _ _)
  · exact .undialed ht (.inr ⟨rfl, rfl⟩) (enters_dialFailed c i _ _ _)
  · exact .operated ht (enters_finish c i _)
  · exact .failed ht (.inl rfl) (enters_operationFailed c i _ _ _ _)
  · exact .failed ht (.inr ⟨rfl, rfl⟩) (enters_operationFailed c i _ _ _ _)
  · exact .pinged ht (enters_probeNext c i _ _)
  · exact .unpinged ht (.inl ⟨_, rfl⟩) (enters_pingFailed c i _ _ _)
  · exact .unpinged ht (.inr rfl) (enters_pingFailed c i _ _ _)
  · exact .closed ht (.inl rfl) (Enters.tally (t := .close) (by simp) (enters_removed _ i _ true))
  · exact .closed ht (.inr ⟨_, rfl⟩)
      (Enters.log (Enters.tally (t := .close) (by simp) (enters_removed _ i _ true)))

theorem phase?_eq_some {p : Phase κ α} : c.phase? i = some p ↔ ∃ l, c.tasks[i]? = some ⟨p, l⟩ := by
  simp only [phase?, Option.map_eq_some_iff]
  constructor
  · rintro ⟨⟨q, l⟩, ht, rfl⟩
    exact ⟨l, ht⟩
  · rintro ⟨l, ht⟩
    exact ⟨_, ht, rfl⟩

theorem does_of_move {m : Move κ α} (h : c.move m = some d) : c.Does m d := by
  cases m with
  | start call =>
    cases h
    exact .start
  | step i => exact does_of_step h
  | reply i r => exact does_of_reply h
  | drop i =>
    simp only [move, Option.bind_eq_some_iff] at h
    obtain ⟨p, hp, h⟩ := h
    obtain ⟨l, ht⟩ := phase?_eq_some.mp hp
    split at h
    · cases h
    · rename_i hover
      cases h
      exact .drop ht (eq_false_of_ne_true hover) (enters_goto _ i _)

end Cache

end StoreAccess
