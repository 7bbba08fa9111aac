import StoreAccess.Proofs.Cache.Attempts
import StoreAccess.Proofs.Cache.Ledger

/-! What a cache counts, move by move. A task that goes from one phase to another counts as it leaves the one, by
    what it found there, and as it enters the other. `Passage` says how the two fit: what is counted once is seen
    once, and who has missed its target goes on to dial it, is refused or finds it after all. -/

namespace StoreAccess

namespace CacheStats

def get (s : CacheStats) : Tally → Nat
  | .dial => s.dials
  | .dialFailure => s.dialFailures
  | .hit => s.hits
  | .miss => s.misses
  | .invalidation => s.invalidations
  | .close => s.closes
  | .retry => s.retries
  | .probeFailure => s.probeFailures

def recordAll (s : CacheStats) (ts : List Tally) : CacheStats := ts.foldl record s

theorem get_record (s : CacheStats) (t t' : Tally) : (s.record t).get t' = s.get t' + if t = t' then 1 else 0 := by
  cases t <;> cases t' <;> rfl

theorem get_recordAll (ts : List Tally) (t : Tally) :
    ∀ s : CacheStats, (s.recordAll ts).get t = s.get t + ts.count t := by
  induction ts with
  | nil => simp [recordAll]
  | cons t' ts ih =>
    intro s
    have rest := ih (s.record t')
    rw [get_record] at rest
    simp only [recordAll, List.foldl_cons, List.count_cons, beq_iff_eq] at rest ⊢
    omega

end CacheStats

variable {κ α : Type} [BackendConfig κ] {c d : Cache κ α} {i : Nat} {p q : Phase κ α}

/-! ### Entering a phase -/

def Trial.isBegun : Trial α → Bool
  | begun => true
  | _ => false

namespace Phase

/-- What the target is looked for for. -/
def wanted : Phase κ α → List (Purpose κ)
  | looking _ why => [why]
  | _ => []

/-- The target that was missed and is not dialed yet. -/
def missing : Phase κ α → List (Target κ)
  | queueing target _ | rechecking target _ | dialing target _ => [target]
  | _ => []

/-- How many attempts begin. -/
def attempts (p : Phase κ α) : Nat := p.trial?.toList.countP Trial.isBegun

/-- What is counted as a task enters a phase. -/
def counted : Phase κ α → List Tally
  | closing .. => [.invalidation]
  | looking _ (.attempt true) => [.retry]
  | _ => []

/-- A phase in which no target is missed, and no first attempt begins. -/
structure Onward (q : Phase κ α) : Prop where
  missing : q.missing = []
  attempts : q.counted.count .retry = q.attempts

theorem onward_toPing (rest : List (Entry κ)) (replaced : Nat) : (toPing rest replaced : Phase κ α).Onward := by
  cases rest <;> exact ⟨rfl, rfl⟩

theorem onward_toClose (rest : List (Entry κ)) : (toClose rest : Phase κ α).Onward := by
  cases rest <;> exact ⟨rfl, rfl⟩

theorem onward_afterFailure (target : Target κ) (again : Bool) (e : Error) :
    (afterFailure target again e : Phase κ α).Onward := by
  unfold afterFailure
  split <;> exact ⟨rfl, rfl⟩

theorem onward_afterLease (target : Target κ) (why : Purpose κ) (l : Lease) :
    (afterLease target why l : Phase κ α).Onward := by
  cases why with
  | caller | attempt => exact ⟨rfl, rfl⟩
  | replace rest replaced => exact onward_toPing rest _

theorem onward_afterRefusal (target : Target κ) (why : Purpose κ) (e : Error) :
    (afterRefusal target why e : Phase κ α).Onward := by
  cases why with
  | caller => exact ⟨rfl, rfl⟩
  | attempt again => exact onward_afterFailure target again e
  | replace rest replaced => exact onward_toPing rest _

theorem onward_afterRemoval (why : Aftermath κ) (found : Bool) : (afterRemoval why found : Phase κ α).Onward := by
  cases why with
  | caller => exact ⟨rfl, rfl⟩
  | attempt target again e => exact onward_afterFailure target again e
  | probe target rest replaced =>
    cases found
    · exact onward_toPing rest replaced
    · exact ⟨rfl, rfl⟩
  | clear rest => exact onward_toClose rest

theorem onward_afterOperation (target : Target κ) (again : Bool) (l : Lease) (e : Error) :
    (afterOperation target again l e : Phase κ α).Onward := by
  unfold afterOperation
  split <;> exact ⟨rfl, rfl⟩

theorem count_invalidation_counted (q : Phase κ α) : q.counted.count .invalidation = q.closingNow.length := by
  cases q with
  | looking _ why =>
    rcases why with - | (- | -) | - <;> rfl
  | _ => rfl

/-- Only removals and second attempts are counted on entering a phase. -/
theorem count_counted {t : Tally} (removal : t ≠ .invalidation) (retry : t ≠ .retry) (q : Phase κ α) :
    q.counted.count t = 0 := by
  cases q with
  | looking _ why => rcases why with - | (- | -) | - <;> simp [counted, retry.symm]
  | closing => simp [counted, removal.symm]
  | _ => rfl

end Phase

namespace Cache

@[simp] theorem stats_goto (c : Cache κ α) (i : Nat) (p : Phase κ α) : (c.goto i p).stats = c.stats := by
  unfold goto
  cases p.request? <;> rfl

@[simp] theorem stats_finish (c : Cache κ α) (i : Nat) (a : CallAnswer α) : (c.finish i a).stats = c.stats :=
  stats_goto c i _

@[simp] theorem stats_probeNext (c : Cache κ α) (i : Nat) (rest : List (Entry κ)) (replaced : Nat) :
    (c.probeNext i rest replaced).stats = c.stats.recordAll (Phase.toPing rest replaced : Phase κ α).counted := by
  cases rest <;> exact stats_goto c i _

@[simp] theorem stats_retire (c : Cache κ α) (i : Nat) (e : Entry κ) (why : Aftermath κ) :
    (c.retire i e why).stats = c.stats.recordAll (Phase.closing e why : Phase κ α).counted :=
  stats_goto _ i _

@[simp] theorem stats_clearNext (c : Cache κ α) (i : Nat) (rest : List (Entry κ)) :
    (c.clearNext i rest).stats = c.stats.recordAll (Phase.toClose rest : Phase κ α).counted := by
  cases rest with
  | nil => exact stats_goto c i _
  | cons e rest => exact stats_retire c i e _

@[simp] theorem stats_settle (c : Cache κ α) (i : Nat) (target : Target κ) (again : Bool) (e : Error) :
    (c.settle i target again e).stats = c.stats.recordAll (Phase.afterFailure target again e : Phase κ α).counted := by
  unfold settle Phase.afterFailure
  split <;> exact stats_goto _ i _

@[simp] theorem stats_obtained (c : Cache κ α) (i : Nat) (target : Target κ) (why : Purpose κ) (l : Lease) :
    (c.obtained i target why l).stats = c.stats.recordAll (Phase.afterLease target why l : Phase κ α).counted := by
  cases why with
  | caller | attempt => exact stats_goto c i _
  | replace rest replaced => exact stats_probeNext c i rest _

@[simp] theorem stats_refused (c : Cache κ α) (i : Nat) (target : Target κ) (why : Purpose κ) (e : Error) :
    (c.refused i target why e).stats = c.stats.recordAll (Phase.afterRefusal target why e : Phase κ α).counted := by
  cases why with
  | caller => exact stats_goto c i _
  | attempt again => exact stats_settle c i target again e
  | replace rest replaced => exact stats_probeNext _ i rest replaced

@[simp] theorem stats_removed (c : Cache κ α) (i : Nat) (why : Aftermath κ) (found : Bool) :
    (c.removed i why found).stats = c.stats.recordAll (Phase.afterRemoval why found : Phase κ α).counted := by
  cases why with
  | caller => exact stats_goto c i _
  | attempt target again e => exact stats_settle c i target again e
  | probe target rest replaced =>
    cases found
    · exact stats_probeNext c i rest replaced
    · exact stats_goto c i (.looking target (.replace rest replaced))
  | clear rest => exact stats_clearNext c i rest

@[simp] theorem stats_operationFailed (c : Cache κ α) (i : Nat) (target : Target κ) (again : Bool) (l : Lease)
    (e : Error) : (c.operationFailed i target again l e).stats =
      c.stats.recordAll (Phase.afterOperation target again l e : Phase κ α).counted := by
  unfold operationFailed Phase.afterOperation
  split <;> exact stats_goto _ i _

end Cache

/-! ### Leaving a phase -/

/-- The target that a task looks for once more by its next step. -/
def Cache.rechecked? (c : Cache κ α) (i : Nat) : Option (Target κ) :=
  match c.tasks[i]? with
  | some ⟨.rechecking target _, some _⟩ => some target
  | _ => none

namespace Transition

/-- A task that missed its target finds it after all. -/
def shared (x : Transition κ α) : Bool :=
  match x.move with
  | .step i => (x.before.rechecked? i).any fun target => (x.before.entry? target.fingerprint).isSome
  | _ => false

/-- A task is to dial a target, and the target fails its check. -/
def rejected (x : Transition κ α) : Bool :=
  match x.move with
  | .step i => (x.before.rechecked? i).any fun target =>
    (x.before.entry? target.fingerprint).isNone && !target.check.isOk
  | _ => false

/-- A probe fails, or takes too long. -/
def failedProbe (x : Transition κ α) : Bool :=
  match x.move with
  | .reply i r =>
    match x.before.phase? i, r with
    | some (.pinging ..), .success => false
    | some (.pinging ..), _ => true
    | _, _ => false
  | _ => false

/-- Task `i` goes from phase `p` to phase `q`, and this is counted. -/
structure Passage (x : Transition κ α) (i : Nat) (p q : Phase κ α) (counts : List Tally) : Prop where
  worker : x.move.worker? = some i
  task : x.before.phase? i = some p
  tasks : x.after.tasks = x.before.tasks.set i ⟨q, none⟩
  stats : x.after.stats = x.before.stats.recordAll (counts ++ q.counted)
  plain : counts.count .invalidation = 0 ∧ counts.count .retry = 0
  looked : counts.count .hit + counts.count .miss = p.wanted.length
  missed : q.missing.length + counts.count .dial + counts.count .dialFailure + x.shared.toNat + x.rejected.toNat =
    p.missing.length + counts.count .miss
  attempts : q.counted.count .retry = q.attempts
  closed : counts.count .close = p.closingNow.length ∧ x.closed.length = p.closingNow.length
  probed : counts.count .probeFailure = x.failedProbe.toNat

end Transition

namespace Transition

variable {m : Move κ α} {l : Option Lock} {counts : List Tally}

theorem shared_of_task (task : c.tasks[i]? = some ⟨p, l⟩) (worker : m.worker? = some i) (here : p.missing = []) :
    (Transition.mk c m d).shared = false ∧ (Transition.mk c m d).rejected = false := by
  have other : c.rechecked? i = none := by
    unfold Cache.rechecked?
    split
    · rename_i same
      rw [task] at same
      cases same
      cases here
    · rfl
  cases m with
  | start | drop => cases worker
  | step j =>
    cases worker
    simp [shared, rejected, other]
  | reply => exact ⟨rfl, rfl⟩

/-- A task goes on in which no target is looked for, missed or closed, and no probe fails. -/
theorem Passage.of_plain (worker : m.worker? = some i) (task : c.tasks[i]? = some ⟨p, l⟩)
    (tasks : d.tasks = c.tasks.set i ⟨q, none⟩) (stats : d.stats = c.stats.recordAll q.counted)
    (onward : q.Onward) (wanted : p.wanted = []) (missing : p.missing = []) (idle : p.closingNow = [])
    (fine : (Transition.mk c m d).failedProbe = false) : (Transition.mk c m d).Passage i p q [] := by
  have hp := Cache.phase?_of_task task
  obtain ⟨unshared, accepted⟩ := shared_of_task (d := d) task worker missing
  refine ⟨worker, hp, tasks, stats, ⟨rfl, rfl⟩, ?_, ?_, onward.attempts, ?_, ?_⟩
  · simp [wanted]
  · simp [onward.missing, missing, unshared, accepted]
  · simp [idle, closed_of_idle worker hp idle]
  · simp [fine]

/-! The work of a phase. -/

/-- Work by which no target is found or missed. -/
theorem passage_of_plain (task : c.tasks[i]? = some ⟨p, l⟩) (tasks : d.tasks = c.tasks.set i ⟨q, none⟩)
    (stats : d.stats = c.stats.recordAll q.counted) (onward : q.Onward) (wanted : p.wanted = [])
    (missing : p.missing = []) (idle : p.closingNow = []) :
    ∃ q counts, (Transition.mk c (.step i) d).Passage i p q counts :=
  ⟨_, _, .of_plain rfl task tasks stats onward wanted missing idle rfl⟩

section
variable {target : Target κ} {why : Purpose κ}

/-- Who looks for a target finds it, or misses it and queues. -/
theorem passage_of_looking (task : c.tasks[i]? = some ⟨.looking target why, l⟩)
    (work : c.work i (.looking target why) = some d) :
    ∃ q counts, (Transition.mk c (.step i) d).Passage i (.looking target why) q counts := by
  have hp := Cache.phase?_of_task task
  obtain ⟨unshared, accepted⟩ := shared_of_task (m := .step i) (d := d) task rfl rfl
  simp only [Cache.work] at work
  split at work <;> cases work
  · rename_i e entry
    have onward := Phase.onward_afterLease (α := α) target why e.lease
    refine ⟨_, [.hit], rfl, hp, (Cache.enters_obtained _ i target why _).tasks, ?_, ⟨rfl, rfl⟩, rfl, ?_,
      onward.attempts, ⟨rfl, rfl⟩, rfl⟩
    · exact Cache.stats_obtained _ i target why _
    · rw [onward.missing, unshared, accepted]
      rfl
  · refine ⟨_, [.miss], rfl, hp, (Cache.enters_goto _ i (.queueing target why)).tasks, ?_, ⟨rfl, rfl⟩, rfl, ?_,
      rfl, ⟨rfl, rfl⟩, rfl⟩
    · exact Cache.stats_goto _ i _
    · rw [unshared, accepted]
      rfl

theorem passage_of_queueing (task : c.tasks[i]? = some ⟨.queueing target why, l⟩)
    (work : c.work i (.queueing target why) = some d) :
    ∃ q counts, (Transition.mk c (.step i) d).Passage i (.queueing target why) q counts := by
  have hp := Cache.phase?_of_task task
  simp only [Cache.work] at work
  cases work
  refine ⟨_, [], rfl, hp, (Cache.enters_goto _ i (.rechecking target why)).tasks, Cache.stats_goto _ i _,
    ⟨rfl, rfl⟩, rfl, ?_, rfl, ⟨rfl, rfl⟩, rfl⟩
  simp [Phase.missing, shared, rejected, Cache.rechecked?, task]

/-- Who has passed the gate finds its target after all, is refused it, or dials it. -/
theorem passage_of_rechecking {l : Lock} (task : c.tasks[i]? = some ⟨.rechecking target why, some l⟩)
    (work : c.work i (.rechecking target why) = some d) :
    ∃ q counts, (Transition.mk c (.step i) d).Passage i (.rechecking target why) q counts := by
  have hp := Cache.phase?_of_task task
  have again : c.rechecked? i = some target := by simp [Cache.rechecked?, task]
  simp only [Cache.work] at work
  split at work
  · rename_i e entry
    cases work
    have onward := Phase.onward_afterLease (α := α) target why e.lease
    refine ⟨_, [], rfl, hp, (Cache.enters_obtained _ i target why _).tasks, Cache.stats_obtained _ i target why _,
      ⟨rfl, rfl⟩, rfl, ?_, onward.attempts, ⟨rfl, rfl⟩, rfl⟩
    rw [onward.missing]
    simp [Phase.missing, shared, rejected, again, entry]
  · rename_i entry
    split at work <;> cases work
    · rename_i e check
      have onward := Phase.onward_afterRefusal (α := α) target why e
      refine ⟨_, [], rfl, hp, (Cache.enters_refused _ i target why e).tasks, Cache.stats_refused _ i target why e,
        ⟨rfl, rfl⟩, rfl, ?_, onward.attempts, ⟨rfl, rfl⟩, rfl⟩
      rw [onward.missing]
      simp [Phase.missing, shared, rejected, again, entry, check, Except.isOk, Except.toBool]
    · rename_i check
      refine ⟨_, [], rfl, hp, (Cache.enters_goto _ i (.dialing target why)).tasks, Cache.stats_goto _ i _,
        ⟨rfl, rfl⟩, rfl, ?_, rfl, ⟨rfl, rfl⟩, rfl⟩
      simp [Phase.missing, shared, rejected, again, entry, check, Except.isOk, Except.toBool]

end

theorem passage_of_removing {f : Fingerprint} (task : c.tasks[i]? = some ⟨.removing f, l⟩)
    (work : c.work i (.removing f) = some d) :
    ∃ q counts, (Transition.mk c (.step i) d).Passage i (.removing f) q counts := by
  simp only [Cache.work] at work
  split at work <;> cases work
  · rename_i e entry
    exact passage_of_plain task (Cache.enters_retire _ i e .caller).tasks (Cache.stats_retire _ i e .caller)
      ⟨rfl, rfl⟩ rfl rfl rfl
  · exact passage_of_plain task (Cache.enters_finish c i _).tasks (Cache.stats_finish c i _) ⟨rfl, rfl⟩ rfl rfl rfl

theorem passage_of_removingLease {lease : Lease} {why : Aftermath κ}
    (task : c.tasks[i]? = some ⟨.removingLease lease why, l⟩) (work : c.work i (.removingLease lease why) = some d) :
    ∃ q counts, (Transition.mk c (.step i) d).Passage i (.removingLease lease why) q counts := by
  have spared (goes : (c.log (Notice.replacedAlready lease)).removed i why false = d) :
      ∃ q counts, (Transition.mk c (.step i) d).Passage i (.removingLease lease why) q counts := by
    subst goes
    exact passage_of_plain task (Cache.enters_removed _ i why false).tasks (Cache.stats_removed _ i why false)
      (Phase.onward_afterRemoval why false) rfl rfl rfl
  simp only [Cache.work] at work
  split at work
  · rename_i e entry
    split at work <;> cases work
    · exact passage_of_plain task (Cache.enters_retire _ i e why).tasks (Cache.stats_retire _ i e why) ⟨rfl, rfl⟩
        rfl rfl rfl
    · exact spared rfl
  · cases work
    exact spared rfl

theorem passage_of_work {l : Lock} (task : c.tasks[i]? = some ⟨p, some l⟩) (work : c.work i p = some d) :
    ∃ q counts, (Transition.mk c (.step i) d).Passage i p q counts := by
  cases p with
  | looking => exact passage_of_looking task work
  | queueing => exact passage_of_queueing task work
  | rechecking => exact passage_of_rechecking task work
  | removing => exact passage_of_removing task work
  | removingLease => exact passage_of_removingLease task work
  | inserting e why =>
    simp only [Cache.work] at work
    cases work
    exact passage_of_plain task (Cache.enters_obtained _ i e.target why _).tasks
      (Cache.stats_obtained _ i e.target why _) (Phase.onward_afterLease e.target why _) rfl rfl rfl
  | draining =>
    simp only [Cache.work] at work
    cases work
    exact passage_of_plain task (Cache.enters_clearNext _ i (c.found i)).tasks
      (Cache.stats_clearNext _ i (c.found i)) (Phase.onward_toClose _) rfl rfl rfl
  | noting =>
    simp only [Cache.work] at work
    cases work
    exact passage_of_plain task (Cache.enters_probeNext c i (c.found i) 0).tasks
      (Cache.stats_probeNext c i (c.found i) 0) (Phase.onward_toPing _ _) rfl rfl rfl
  | counting | containing =>
    simp only [Cache.work] at work
    cases work
    exact passage_of_plain task (Cache.enters_finish c i _).tasks (Cache.stats_finish c i _) ⟨rfl, rfl⟩ rfl rfl rfl
  | dialing | operating | closing | pinging | finished | dropped => cases work

/-- A step takes a lock, or goes on to another phase. -/
theorem passage_of_step (step : c.step i = some d) :
    (∃ p l, c.tasks[i]? = some ⟨p, none⟩ ∧ d = { c with tasks := c.tasks.set i ⟨p, some l⟩ }) ∨
      ∃ p q counts, (Transition.mk c (.step i) d).Passage i p q counts := by
  simp only [Cache.step, Option.bind_eq_bind, Option.bind_eq_some_iff] at step
  obtain ⟨⟨p, lock⟩, task, step⟩ := step
  cases needs : p.lock? <;> cases lock <;> simp only [needs] at step
  · cases step
  · cases step
  · split at step <;> cases step
    exact Or.inl ⟨p, _, task, rfl⟩
  · exact Or.inr ⟨p, passage_of_work task step⟩

theorem passage_of_reply {r : Reply α} (reply : c.reply i r = some d) :
    ∃ p q counts, (Transition.mk c (.reply i r) d).Passage i p q counts := by
  simp only [Cache.reply, Option.bind_eq_bind, Option.bind_eq_some_iff] at reply
  obtain ⟨⟨p, l⟩, task, reply⟩ := reply
  have hp := Cache.phase?_of_task task
  have undialed : ∀ {target : Target κ} {why : Purpose κ} {e : Error}, p = .dialing target why →
      d = c.dialFailed i target why e → ∃ p q counts, (Transition.mk c (.reply i r) d).Passage i p q counts := by
    rintro target why e rfl rfl
    have onward := Phase.onward_afterRefusal (α := α) target why (c.asDialError e)
    refine ⟨_, _, [.dialFailure], rfl, hp, (Cache.enters_dialFailed c i target why e).tasks,
      Cache.stats_refused _ i target why _, ⟨rfl, rfl⟩, rfl, ?_, onward.attempts, ?_, ?_⟩
    · rw [onward.missing]
      rfl
    · simp [closed, hp, Phase.closingNow]
    · simp [failedProbe, hp]
  have operated : ∀ {target : Target κ} {again : Bool} {lease : Lease} {q : Phase κ α},
      p = .operating target again lease → d.tasks = c.tasks.set i ⟨q, none⟩ →
      d.stats = c.stats.recordAll q.counted → q.Onward →
      ∃ p q counts, (Transition.mk c (.reply i r) d).Passage i p q counts := by
    rintro target again lease q rfl tasks stats onward
    exact ⟨_, _, _, .of_plain rfl task tasks stats onward rfl rfl rfl (by simp [failedProbe, hp])⟩
  have unpinged : ∀ {e : Entry κ} {rest : List (Entry κ)} {replaced : Nat}, p = .pinging e rest replaced →
      r ≠ .success → d = c.pingFailed i e rest replaced →
      ∃ p q counts, (Transition.mk c (.reply i r) d).Passage i p q counts := by
    rintro e rest replaced rfl failure rfl
    refine ⟨_, _, [.probeFailure], rfl, hp, (Cache.enters_pingFailed c i e rest replaced).tasks,
      Cache.stats_goto _ i _, ⟨rfl, rfl⟩, rfl, rfl, rfl, ?_, ?_⟩
    · simp [closed, hp, Phase.closingNow]
    · simp [failedProbe, hp]
  have closed : ∀ {e : Entry κ} {why : Aftermath κ}, p = .closing e why →
      d.tasks = c.tasks.set i ⟨.afterRemoval why true, none⟩ →
      d.stats = (c.stats.record .close).recordAll (Phase.afterRemoval why true : Phase κ α).counted →
      ∃ p q counts, (Transition.mk c (.reply i r) d).Passage i p q counts := by
    rintro e why rfl tasks stats
    have onward := Phase.onward_afterRemoval (α := α) why true
    refine ⟨_, _, [.close], rfl, hp, tasks, stats, ⟨rfl, rfl⟩, rfl, ?_, onward.attempts, ⟨rfl, ?_⟩, ?_⟩
    · rw [onward.missing]
      rfl
    · simp [closed, hp, Phase.closingNow]
    · simp [failedProbe, hp]
  dsimp only at reply
  split at reply <;> cases reply
  · refine ⟨_, _, [.dial], rfl, hp, (Cache.enters_goto c.handleMade i _).tasks, Cache.stats_goto _ i _, ⟨rfl, rfl⟩, rfl,
      rfl, rfl, ?_, ?_⟩
    · simp [Transition.closed, hp, Phase.closingNow]
    · simp [failedProbe, hp]
  · exact undialed rfl rfl
  · exact undialed rfl rfl
  · exact operated rfl (Cache.enters_finish c i _).tasks (Cache.stats_finish c i _) ⟨rfl, rfl⟩
  · exact operated rfl (Cache.enters_operationFailed c i _ _ _ _).tasks (Cache.stats_operationFailed c i _ _ _ _)
      (Phase.onward_afterOperation _ _ _ _)
  · exact operated rfl (Cache.enters_operationFailed c i _ _ _ _).tasks (Cache.stats_operationFailed c i _ _ _ _)
      (Phase.onward_afterOperation _ _ _ _)
  · exact ⟨_, _, _, .of_plain rfl task (Cache.enters_probeNext c i _ _).tasks (Cache.stats_probeNext c i _ _)
      (Phase.onward_toPing _ _) rfl rfl rfl (by simp [failedProbe, hp])⟩
  · exact unpinged rfl (by simp) rfl
  · exact unpinged rfl (by simp) rfl
  · exact closed rfl (Cache.enters_removed _ i _ true).tasks (Cache.stats_removed _ i _ true)
  · exact closed rfl (Cache.enters_removed _ i _ true).tasks (Cache.stats_removed _ i _ true)

end Transition

end StoreAccess
