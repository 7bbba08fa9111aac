import StoreAccess.Proofs.Cache.Ledger
import StoreAccess.Proofs.Cache.Tallies
import StoreAccess.Proofs.Cache.Ways

/-! Probes by a call that is alone. Its way through the phases comes down to what is done with one entry after the
    other: if the handle does not answer its probe, the entry is removed, the handle is closed and the target is dialed
    anew. -/

namespace StoreAccess

/-! ### Replies -/

section

variable {κ α : Type} {answer : Request κ → Reply α}

def Reply.isSuccess : Reply α → Bool
  | .success => true
  | _ => false

theorem Reply.eq_success {r : Reply α} (success : r.isSuccess = true) : r = .success := by
  cases r <;> first | rfl | cases success

/-- The client has no reply of a kind that its request cannot come to. -/
def Lawful (answer : Request κ → Reply α) : Prop := ∀ r : Request κ, r.takes (answer r) = true

/-- A request that comes to no value fails or takes too long, unless it succeeds. -/
theorem Lawful.fails (lawful : Lawful answer) {r : Request κ} (valueless : ∀ a : α, r.takes (.value a) = false)
    (failure : (answer r).isSuccess = false) : (∃ err, answer r = .failure err) ∨ answer r = .overdue := by
  have takes := lawful r
  cases reply : answer r <;> rw [reply] at takes failure
  case success => cases failure
  case value a => cases takes.symm.trans (valueless a)
  case failure err => exact Or.inl ⟨err, rfl⟩
  case overdue => exact Or.inr rfl

theorem Lawful.closes (lawful : Lawful answer) (l : Lease) :
    answer (.close l) = .success ∨ ∃ err, answer (.close l) = .failure err := by
  have takes := lawful (.close l)
  cases reply : answer (.close l) <;> rw [reply] at takes
  case success => exact Or.inl rfl
  case failure err => exact Or.inr ⟨err, rfl⟩
  all_goals cases takes

end

variable {κ α : Type} [BackendConfig κ] {answer : Request κ → Reply α} {i : Nat} {h : History κ α} {c d c₀ : Cache κ α}
  {p q : Phase κ α} {e : Entry κ} {target : Target κ} {rest : List (Entry κ)} {n : Nat}

/-! ### What a round has to do with -/

/-- What is cached and counted, and what was dialed and closed. -/
structure Stock (κ : Type) [BackendConfig κ] where
  entries : List (Entry κ)
  generation : Nat
  stats : CacheStats
  /-- The handles that the client was told to close. -/
  closeCalls : List Lease
  dialings : List (Nat × Entry κ)
  closed : List Lease

namespace Stock

def find? (s : Stock κ) (f : Fingerprint) : Option (Entry κ) := s.entries.find? fun e => e.target.fingerprint == f

def record (s : Stock κ) (t : Tally) : Stock κ := { s with stats := s.stats.record t }

/-- Removes the entry of a target, and tells the client to close its handle. -/
def evict (s : Stock κ) (e : Entry κ) : Stock κ :=
  { s with
    entries := s.entries.filter fun e' => e'.target.fingerprint != e.target.fingerprint
    stats := s.stats.record .invalidation
    closeCalls := s.closeCalls ++ [e.lease] }

/-- The closing of a handle comes to an end. -/
def shut (s : Stock κ) (e : Entry κ) : Stock κ :=
  { s with stats := s.stats.record .close, closed := s.closed ++ [e.lease] }

/-- The entry for the next handle. -/
def next (s : Stock κ) (target : Target κ) : Entry κ := ⟨target, s.stats.dials + 1, s.generation + 1⟩

def dial (s : Stock κ) (i : Nat) (target : Target κ) : Stock κ :=
  { s with
    generation := s.generation + 1
    stats := s.stats.record .dial
    dialings := s.dialings ++ [(i, s.next target)] }

def put (s : Stock κ) (e : Entry κ) : Stock κ :=
  { s with entries := (s.entries.filter fun e' => e'.target.fingerprint != e.target.fingerprint) ++ [e] }

end Stock

/-- The stock of a cache after a history. -/
def Cache.stock (c : Cache κ α) (h : History κ α) : Stock κ :=
  ⟨c.entries, c.generation, c.stats, c.closeCalls, h.dialings, h.closed⟩

namespace Cache

theorem stock_snoc (c : Cache κ α) (h : History κ α) (x : Transition κ α) :
    c.stock (h ++ [x]) =
      { c.stock h with dialings := h.dialings ++ x.dialing?.toList, closed := h.closed ++ x.closed } := by
  rw [stock, History.dialings_snoc, History.closed_snoc]
  rfl

theorem stock_snoc_of_quiet {x : Transition κ α} (undialed : x.dialing? = none) (unclosed : x.closed = []) :
    c.stock (h ++ [x]) = c.stock h := by
  rw [stock_snoc, undialed, unclosed, Option.toList_none, List.append_nil, List.append_nil]
  rfl

theorem closeCalls_log (c : Cache κ α) (e : LogEvent) : (c.log e).closeCalls = c.closeCalls := by
  simp [closeCalls, Cache.log, requests_emit, CacheEvent.request?]

@[simp] theorem stock_log (c : Cache κ α) (h : History κ α) (e : LogEvent) : (c.log e).stock h = c.stock h := by
  rw [stock, closeCalls_log]
  rfl

@[simp] theorem stock_tally (c : Cache κ α) (h : History κ α) (t : Tally) :
    (c.tally t).stock h = (c.stock h).record t := rfl

@[simp] theorem stock_leave (c : Cache κ α) (h : History κ α) (i : Nat) : (c.leave i).stock h = c.stock h := rfl

@[simp] theorem stock_join (c : Cache κ α) (h : History κ α) (f : Fingerprint) (i : Nat) :
    (c.join f i).stock h = c.stock h := rfl

@[simp] theorem stock_put (c : Cache κ α) (h : History κ α) (e : Entry κ) :
    (c.put e).stock h = (c.stock h).put e := rfl

theorem stock_goto (c : Cache κ α) (h : History κ α) (i : Nat) (p : Phase κ α) :
    (c.goto i p).stock h = { c.stock h with closeCalls := c.closeCalls ++ p.closingNow } := by
  have enters := enters_goto c i p
  rw [stock, enters.entries, enters.generation, stats_goto, enters.closeCalls_eq rfl]
  rfl

theorem stock_goto_of_idle (c : Cache κ α) (h : History κ α) (i : Nat) (idle : p.closingNow = []) :
    (c.goto i p).stock h = c.stock h := by
  rw [stock_goto, idle, List.append_nil]
  rfl

@[simp] theorem stock_probeNext (c : Cache κ α) (h : History κ α) (i : Nat) (rest : List (Entry κ)) (n : Nat) :
    (c.probeNext i rest n).stock h = c.stock h := by
  cases rest <;> exact stock_goto_of_idle c h i rfl

end Cache

/-! ### Legs of the way -/

/-- The way of the task that begins at `c₀` comes to the phase `p`, and then the stock is `s`. -/
def Comes (answer : Request κ → Reply α) (i : Nat) (c₀ : Cache κ α) (p : Phase κ α) (s : Stock κ) : Prop :=
  ∃ h c, Way answer i c₀ h c ∧ c.Solo i p ∧ c.stock h = s

namespace Comes

variable {s t : Stock κ}

/-- The task takes the lock of its phase and does its work, which may be of several ends. -/
theorem works_to {l : Lock} (comes : Comes answer i c₀ p s) (needs : p.lock? = some l) (ends : Phase κ α → Prop)
    (goes : ∀ (c : Cache κ α) h, c.stock h = s →
      ∃ q d, ends q ∧ c.work i p = some d ∧ d.tasks = c.tasks.set i ⟨q, none⟩ ∧ d.stock h = t) :
    ∃ q, ends q ∧ Comes answer i c₀ q t := by
  obtain ⟨h, c, way, solo, rfl⟩ := comes
  have idle : p.request? = none := by cases p <;> first | rfl | cases needs
  obtain ⟨within, -⟩ := List.getElem?_eq_some_iff.mp solo.task
  have lock := solo.step_eq_lock needs
  generalize taken : ({ c with tasks := c.tasks.set i ⟨p, some l⟩ } : Cache κ α) = c' at lock
  have tasks : c'.tasks = c.tasks.set i ⟨p, some l⟩ := by rw [← taken]
  have task : c'.tasks[i]? = some ⟨p, some l⟩ := by rw [tasks, List.getElem?_set_self within]
  have same : c'.stock (h ++ [⟨c, .step i, c'⟩]) = c.stock h := by
    rw [Cache.stock_snoc_of_quiet rfl rfl, ← taken]
    rfl
  obtain ⟨q, d, ends, work, tasks', stock⟩ := goes c' _ same
  have step : c'.step i = some d := (Cache.step_eq_work task needs).trans work
  have orderly := (solo.orderly.move (m := .step i) lock).move (m := .step i) step
  have way' := (way.snoc (m := .step i) lock (Cache.turn_of_idle solo.phase idle).symm).snoc (m := .step i) step
    (Cache.turn_of_idle (Cache.phase?_of_task task) idle).symm
  refine ⟨q, ends, _, d, way', ⟨(solo.alone.set tasks).set tasks', orderly, ?_⟩, ?_⟩
  · rw [tasks', List.getElem?_set_self (by rw [tasks, List.length_set]; exact within)]
  · rw [Cache.stock_snoc_of_quiet rfl rfl, stock]

theorem works {l : Lock} (comes : Comes answer i c₀ p s) (needs : p.lock? = some l)
    (goes : ∀ (c : Cache κ α) h, c.stock h = s →
      ∃ d, c.work i p = some d ∧ d.tasks = c.tasks.set i ⟨q, none⟩ ∧ d.stock h = t) : Comes answer i c₀ q t := by
  obtain ⟨_, rfl, comes⟩ := comes.works_to needs (· = q) fun c h same => ⟨q, (goes c h same).imp fun _ => .intro rfl⟩
  exact comes

/-- The client answers the request of the task's phase. -/
theorem hears {r : Request κ} (comes : Comes answer i c₀ p s) (asks : p.request? = some r)
    (goes : ∀ (c : Cache κ α) h, c.tasks[i]? = some ⟨p, none⟩ → c.stock h = s →
      ∃ d, c.reply i (answer r) = some d ∧ d.tasks = c.tasks.set i ⟨q, none⟩ ∧
        d.stock (h ++ [⟨c, .reply i (answer r), d⟩]) = t) : Comes answer i c₀ q t := by
  obtain ⟨h, c, way, solo, same⟩ := comes
  obtain ⟨within, -⟩ := List.getElem?_eq_some_iff.mp solo.task
  obtain ⟨d, reply, tasks, stock⟩ := goes c h solo.task same
  have orderly := solo.orderly.move (m := .reply i (answer r)) reply
  have way' := way.snoc (m := .reply i (answer r)) reply (Cache.turn_of_request solo.phase asks).symm
  refine ⟨_, d, way', ⟨solo.alone.set tasks, orderly, ?_⟩, stock⟩
  rw [tasks, List.getElem?_set_self within]

/-- The client answers a request by which no handle is dialed or closed. -/
theorem replies {r : Request κ} (comes : Comes answer i c₀ p s) (asks : p.request? = some r) (idle : p.closingNow = [])
    (held : q.held = []) (goes : ∀ (c : Cache κ α) h, c.tasks[i]? = some ⟨p, none⟩ → c.stock h = s →
      ∃ d, c.reply i (answer r) = some d ∧ d.tasks = c.tasks.set i ⟨q, none⟩ ∧ d.stock h = t) :
    Comes answer i c₀ q t := by
  refine comes.hears asks fun c h task same => ?_
  obtain ⟨within, -⟩ := List.getElem?_eq_some_iff.mp task
  obtain ⟨d, reply, tasks, stock⟩ := goes c h task same
  have hq : d.phase? i = some q := Cache.phase?_of_task (by rw [tasks, List.getElem?_set_self within])
  have undialed := Transition.dialed_of_held (c := c) (m := .reply i (answer r)) rfl hq held
  refine ⟨d, reply, tasks, (Cache.stock_snoc_of_quiet ?_ ?_).trans stock⟩
  · simpa [Transition.dialed] using undialed
  · exact Transition.closed_of_idle rfl (Cache.phase?_of_task task) idle

/-- The entries are noted in the order in which the task finds them. -/
theorem note (comes : Comes answer i c₀ .noting s) :
    ∃ noted, noted.Perm s.entries ∧ Comes answer i c₀ (.toPing noted 0) s := by
  have comes := comes.works_to rfl (fun q => ∃ noted, noted.Perm s.entries ∧ q = .toPing noted 0)
    fun c h same => ⟨_, _, ⟨c.found i, same ▸ c.perm_found i, rfl⟩, rfl,
      (Cache.enters_probeNext c i (c.found i) 0).tasks, (Cache.stock_probeNext c h i _ 0).trans same⟩
  obtain ⟨_, ⟨noted, all, rfl⟩, comes⟩ := comes
  exact ⟨noted, all, comes⟩

theorem pinged (comes : Comes answer i c₀ (.pinging e rest n) s) (success : answer (.ping e.lease) = .success) :
    Comes answer i c₀ (.toPing rest n) s := by
  refine comes.replies rfl rfl (Phase.free_toPing rest n).held fun c h task same => ?_
  refine ⟨c.probeNext i rest n, ?_, (Cache.enters_probeNext c i rest n).tasks, by rw [Cache.stock_probeNext, same]⟩
  simp [Cache.reply, task, success]

theorem unpinged (comes : Comes answer i c₀ (.pinging e rest n) s)
    (failure : (∃ err, answer (.ping e.lease) = .failure err) ∨ answer (.ping e.lease) = .overdue) :
    Comes answer i c₀ (.removingLease e.lease (.probe e.target rest n)) (s.record .probeFailure) := by
  refine comes.replies rfl rfl rfl fun c h task same => ?_
  refine ⟨c.pingFailed i e rest n, ?_, (Cache.enters_pingFailed c i e rest n).tasks, ?_⟩
  · rcases failure with ⟨err, failure⟩ | failure <;> simp [Cache.reply, task, failure]
  · rw [Cache.pingFailed, Cache.stock_goto_of_idle _ _ _ rfl, Cache.stock_log, Cache.stock_tally, same]

theorem evict {why : Aftermath κ} (comes : Comes answer i c₀ (.removingLease e.lease why) s)
    (entry : s.find? e.target.fingerprint = some e) : Comes answer i c₀ (.closing e why) (s.evict e) := by
  refine comes.works rfl fun c h same => ?_
  subst same
  have found : c.entry? e.target.fingerprint = some e := entry
  refine ⟨(c.erase e.target.fingerprint).retire i e why, ?_, (Cache.enters_retire _ i e why).tasks, ?_⟩
  · simp [Cache.work, found]
  · rw [Cache.retire, Cache.stock_goto, Cache.stock_log, Cache.closeCalls_log]
    rfl

theorem shut (comes : Comes answer i c₀ (.closing e (.probe target rest n)) s)
    (reply : answer (.close e.lease) = .success ∨ ∃ err, answer (.close e.lease) = .failure err) :
    Comes answer i c₀ (.looking target (.replace rest n)) (s.shut e) := by
  refine comes.hears rfl fun c h task same => ?_
  have hp := Cache.phase?_of_task task
  subst same
  have after {d : Cache κ α} (stock : d.stock h = (c.stock h).record .close) :
      d.stock (h ++ [⟨c, .reply i (answer (.close e.lease)), d⟩]) = (c.stock h).shut e := by
    have undialed : (Transition.mk c (.reply i (answer (.close e.lease))) d).dialing? = none := by
      cases reply : answer (.close e.lease) <;> simp [Transition.dialing?, hp]
    have closed : (Transition.mk c (.reply i (answer (.close e.lease))) d).closed = [e.lease] := by
      simp [Transition.closed, hp]
    rw [Cache.stock_snoc, stock, undialed, closed, Option.toList_none, List.append_nil]
    rfl
  rcases reply with success | ⟨err, failure⟩
  · refine ⟨(c.tally .close).goto i (.looking target (.replace rest n)), ?_, (Cache.enters_goto _ i _).tasks, after ?_⟩
    · simp [Cache.reply, task, success, Cache.removed]
    · rw [Cache.stock_goto_of_idle _ _ _ rfl, Cache.stock_tally]
  · refine ⟨((c.log (Notice.closeFailed e.target.fingerprint err)).tally .close).goto i
      (.looking target (.replace rest n)), ?_, (Cache.enters_goto _ i _).tasks, after ?_⟩
    · simp [Cache.reply, task, failure, Cache.removed]
    · rw [Cache.stock_goto_of_idle _ _ _ rfl, Cache.stock_tally, Cache.stock_log]

theorem miss {why : Purpose κ} (comes : Comes answer i c₀ (.looking target why) s)
    (absent : s.find? target.fingerprint = none) : Comes answer i c₀ (.queueing target why) (s.record .miss) := by
  refine comes.works rfl fun c h same => ?_
  subst same
  have found : c.entry? target.fingerprint = none := absent
  refine ⟨(c.tally .miss).goto i (.queueing target why), ?_, (Cache.enters_goto _ i _).tasks, ?_⟩
  · simp [Cache.work, found]
  · rw [Cache.stock_goto_of_idle _ _ _ rfl, Cache.stock_tally]

theorem queue {why : Purpose κ} (comes : Comes answer i c₀ (.queueing target why) s) :
    Comes answer i c₀ (.rechecking target why) s := by
  refine comes.works rfl fun c h same => ⟨_, rfl, (Cache.enters_goto _ i _).tasks, ?_⟩
  rw [Cache.stock_goto_of_idle _ _ _ rfl, Cache.stock_join, same]

theorem pass {why : Purpose κ} (comes : Comes answer i c₀ (.rechecking target why) s)
    (absent : s.find? target.fingerprint = none) (check : target.check = .ok ()) :
    Comes answer i c₀ (.dialing target why) s := by
  refine comes.works rfl fun c h same => ?_
  subst same
  have found : c.entry? target.fingerprint = none := absent
  refine ⟨(c.log (Notice.dialing c.backend target.fingerprint target.pool)).goto i (.dialing target why), ?_,
    (Cache.enters_goto _ i _).tasks, ?_⟩
  · simp [Cache.work, found, check]
  · rw [Cache.stock_goto_of_idle _ _ _ rfl, Cache.stock_log]

theorem dialed {why : Purpose κ} (comes : Comes answer i c₀ (.dialing target why) s)
    (success : answer (.dial target.config target.pool) = .success) :
    Comes answer i c₀ (.inserting (s.next target) why) (s.dial i target) := by
  refine comes.hears rfl fun c h task same => ?_
  obtain ⟨within, -⟩ := List.getElem?_eq_some_iff.mp task
  subst same
  have enters := Cache.enters_goto c.handleMade i (.inserting (c.newEntry target) why)
  have stock := Cache.stock_goto_of_idle c.handleMade h i (p := .inserting (c.newEntry target) why) rfl
  have reply : c.reply i (answer (.dial target.config target.pool)) =
      some (c.handleMade.goto i (.inserting (c.newEntry target) why)) := by
    simp only [Cache.reply, task, success, Option.bind_eq_bind, Option.bind_some]
    rfl
  generalize c.handleMade.goto i (.inserting (c.newEntry target) why) = d at enters stock reply
  refine ⟨d, reply, enters.tasks, ?_⟩
  have hp := Cache.phase?_of_task task
  have hq : d.phase? i = some (.inserting (c.newEntry target) why) := enters.phase?_eq rfl task
  have made : (Transition.mk c (.reply i (answer (.dial target.config target.pool))) d).dialing? =
      some (i, c.newEntry target) := by
    simp only [Transition.dialing?, success, hp, hq]
  rw [Cache.stock_snoc, stock, made, Transition.closed_of_idle rfl hp rfl, List.append_nil]
  rfl

theorem undialed (comes : Comes answer i c₀ (.dialing target (.replace rest n)) s)
    (failure : (∃ err, answer (.dial target.config target.pool) = .failure err) ∨
      answer (.dial target.config target.pool) = .overdue) :
    Comes answer i c₀ (.toPing rest n) (s.record .dialFailure) := by
  refine comes.replies rfl rfl (Phase.free_toPing rest n).held fun c h task same => ?_
  have after (err : Error) : (c.dialFailed i target (.replace rest n) err).stock h = s.record .dialFailure := by
    rw [Cache.dialFailed, Cache.refused, Cache.stock_probeNext, Cache.stock_log, Cache.stock_leave, Cache.stock_log,
      Cache.stock_tally, same]
  rcases failure with ⟨err, failure⟩ | failure
  · exact ⟨c.dialFailed i target (.replace rest n) err, by simp [Cache.reply, task, failure],
      (Cache.enters_dialFailed c i target _ err).tasks, after err⟩
  · exact ⟨c.dialFailed i target (.replace rest n) c.dialOverdue, by simp [Cache.reply, task, failure],
      (Cache.enters_dialFailed c i target _ _).tasks, after _⟩

theorem put (comes : Comes answer i c₀ (.inserting e (.replace rest n)) s) :
    Comes answer i c₀ (.toPing rest (n + 1)) (s.put e) := by
  refine comes.works rfl fun c h same => ⟨_, rfl, (Cache.enters_obtained _ i e.target _ _).tasks, ?_⟩
  rw [Cache.obtained, Cache.stock_probeNext, Cache.stock_leave, Cache.stock_log, Cache.stock_put, same]

end Comes

/-! ### One entry after the other -/

namespace Entry

/-- The handle of the entry answers its probe in time. -/
def alive (answer : Request κ → Reply α) (e : Entry κ) : Bool := (answer (.ping e.lease)).isSuccess

/-- The target of the entry can be dialed anew. -/
def dialable (answer : Request κ → Reply α) (e : Entry κ) : Bool :=
  (answer (.dial e.target.config e.target.pool)).isSuccess

/-- The handle of the entry is replaced. -/
def renewed (answer : Request κ → Reply α) (e : Entry κ) : Bool := !e.alive answer && e.dialable answer

end Entry

namespace Stock

variable {s : Stock κ} {f : Fingerprint}

/-- What a round does with one entry. -/
def probe (answer : Request κ → Reply α) (i : Nat) (s : Stock κ) (e : Entry κ) : Stock κ :=
  if e.alive answer then s
  else
    let s := (((s.record .probeFailure).evict e).shut e).record .miss
    if e.dialable answer then (s.dial i e.target).put (s.next e.target) else s.record .dialFailure

theorem find?_evict (s : Stock κ) (e : Entry κ) (f : Fingerprint) :
    (s.evict e).find? f = if f = e.target.fingerprint then none else s.find? f := by
  rw [evict, find?, List.find?_filter]
  split
  · rename_i same
    subst same
    simp
  · rename_i other
    refine congrArg (List.find? · s.entries) (funext fun e' => ?_)
    by_cases hf : e'.target.fingerprint = f
    · simp [hf, other]
    · simp [hf]

theorem find?_put (s : Stock κ) (other : f ≠ e.target.fingerprint) : (s.put e).find? f = s.find? f := by
  have split : (s.put e).find? f = ((s.evict e).find? f).or ([e].find? fun e => e.target.fingerprint == f) :=
    List.find?_append
  rw [split, find?_evict, if_neg other]
  simp [Ne.symm other]

theorem find?_probe (other : f ≠ e.target.fingerprint) : (s.probe answer i e).find? f = s.find? f := by
  have gone (s : Stock κ) : (s.evict e).find? f = s.find? f := by rw [find?_evict, if_neg other]
  unfold probe
  split
  · rfl
  · dsimp only
    split
    · exact (find?_put (e := Stock.next _ e.target) _ other).trans (gone _)
    · exact gone _

end Stock

namespace Comes

variable {s : Stock κ}

theorem probed (lawful : Lawful answer) (check : e.target.check = .ok ())
    (entry : s.find? e.target.fingerprint = some e) (comes : Comes answer i c₀ (.pinging e rest n) s) :
    Comes answer i c₀ (.toPing rest (n + (e.renewed answer).toNat)) (s.probe answer i e) := by
  unfold Entry.renewed Stock.probe
  cases alive : e.alive answer with
  | true => exact comes.pinged (Reply.eq_success alive)
  | false =>
    have absent : ((((s.record .probeFailure).evict e).shut e).record .miss).find? e.target.fingerprint = none :=
      (Stock.find?_evict _ e _).trans (if_pos rfl)
    have evicted := (comes.unpinged (lawful.fails (fun _ => rfl) alive)).evict entry
    have missed := (evicted.shut (lawful.closes e.lease)).miss absent
    have dialing := missed.queue.pass absent check
    cases dialable : e.dialable answer with
    | true => exact (dialing.dialed (Reply.eq_success dialable)).put
    | false => exact dialing.undialed (lawful.fails (fun _ => rfl) dialable)

/-- A round takes the noted entries one after the other. -/
theorem round (lawful : Lawful answer) {l : List (Entry κ)} (checks : ∀ e ∈ l, e.target.check = .ok ())
    (keyed : (l.map fun e => e.target.fingerprint).Nodup)
    (entries : ∀ e ∈ l, s.find? e.target.fingerprint = some e) (comes : Comes answer i c₀ (.toPing l n) s) :
    Comes answer i c₀ (.finished (.replaced (n + l.countP (Entry.renewed answer))))
      (l.foldl (Stock.probe answer i) s) := by
  induction l generalizing n s with
  | nil => exact comes
  | cons e l ih =>
    rw [List.map_cons, List.nodup_cons] at keyed
    have next := comes.probed lawful (checks e List.mem_cons_self) (entries e List.mem_cons_self)
    have rest := ih (fun e' he' => checks e' (List.mem_cons_of_mem e he')) keyed.2 (fun e' he' => ?_) next
    · have count : (e :: l).countP (Entry.renewed answer) =
          (e.renewed answer).toNat + l.countP (Entry.renewed answer) := by
        rw [List.countP_cons, Nat.add_comm]
        cases e.renewed answer <;> rfl
      rwa [count, ← Nat.add_assoc]
    · have other : e'.target.fingerprint ≠ e.target.fingerprint := fun same =>
        keyed.1 (List.mem_map.mpr ⟨e', he', same⟩)
      rw [Stock.find?_probe other, entries e' (List.mem_cons_of_mem e he')]

end Comes

end StoreAccess
