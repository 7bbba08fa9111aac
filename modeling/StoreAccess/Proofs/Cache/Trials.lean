import StoreAccess.Proofs.Cache.Grounds

/-! What a call that runs an operation goes through, attempt by attempt: it begins, runs the operation on a
    lease or fails to get one, and ends with a result. At every phase of the call it is known which of these
    are behind it, and what made its handle unusable is gone before the next lease is obtained. -/

namespace StoreAccess

variable {κ α : Type} [BackendConfig κ] {backend : BackendKind} {options : CacheOptions} {order : EntryOrder}
  {c₀ c c' d : Cache κ α} {h : History κ α} {i j : Nat} {m : Move κ α} {p q : Phase κ α} {l : Lease}
  {x : Transition κ α} {target : Target κ} {again : Bool} {lock : Option Lock}

/-! ### Attempts -/

/-- What a call that runs an operation goes through. -/
inductive Trial (α : Type) where
  | begun
  | operated (l : Lease)
  | ended (result : Except Error α)
  deriving DecidableEq

def Trial.lease? : Trial α → Option Lease
  | operated l => some l
  | _ => none

/-- The phase in which one of these begins. -/
def Phase.trial? : Phase κ α → Option (Trial α)
  | looking _ (.attempt _) => some .begun
  | operating _ _ l => some (.operated l)
  | _ => none

theorem Phase.trial?_toPing (rest : List (Entry κ)) (replaced : Nat) :
    (toPing rest replaced : Phase κ α).trial? = none := by
  cases rest <;> rfl

theorem Phase.trial?_toClose (rest : List (Entry κ)) : (toClose rest : Phase κ α).trial? = none := by
  cases rest <;> rfl

theorem Phase.trial?_afterOperation (e : Error) :
    (afterOperation target again l e : Phase κ α).trial? = none := by
  unfold afterOperation
  split <;> rfl

/-- The phase that a task enters by a move, be it the first. -/
def Transition.entered? (i : Nat) (x : Transition κ α) : Option (Phase κ α) :=
  if x.move.worker? = some i ∨ x.before.tasks.length ≤ i then
    match x.after.tasks[i]? with
    | some ⟨p, none⟩ => some p
    | _ => none
  else none

/-- The error for which an attempt ends by a step: its target fails the check. -/
def Cache.rejection? (c : Cache κ α) (i : Nat) : Option Error :=
  match c.tasks[i]? with
  | some ⟨.rechecking target (.attempt _), some _⟩ =>
    match c.entry? target.fingerprint, target.check with
    | none, .error e => some e
    | _, _ => none
  | _ => none

/-- The result with which an attempt ends by an answer of the client. -/
def Phase.result? (c : Cache κ α) : Phase κ α → Reply α → Option (Except Error α)
  | dialing _ (.attempt _), .failure e => some (.error (c.asDialError e))
  | dialing _ (.attempt _), .overdue => some (.error (c.asDialError c.dialOverdue))
  | operating .., .value a => some (.ok a)
  | operating .., .failure e => some (.error e)
  | operating .., .overdue => some (.error c.operationOverdue)
  | _, _ => none

/-- The result of an attempt that ends by a move. -/
def Transition.result? (i : Nat) (x : Transition κ α) : Option (Except Error α) :=
  match x.move with
  | .step j => if j = i then (x.before.rejection? i).map .error else none
  | .reply j r => if j = i then (x.before.phase? i).bind fun p => p.result? x.before r else none
  | _ => none

def Transition.trials (i : Nat) (x : Transition κ α) : List (Trial α) :=
  ((x.result? i).map .ended).toList ++ ((x.entered? i).bind Phase.trial?).toList

def History.trials (i : Nat) (h : History κ α) : List (Trial α) := h.flatMap (Transition.trials i)

/-- One attempt, with the lease on which the operation was run. -/
structure Attempt (α : Type) where
  lease? : Option Lease
  result : Except Error α

namespace Attempt

def trials (a : Attempt α) : List (Trial α) := .begun :: a.lease?.toList.map .operated ++ [.ended a.result]

def failed (a : Attempt α) : Bool :=
  match a.result with
  | .ok _ => false
  | .error e => e.connectionFailed

end Attempt

/-- A call goes through these trials to this result: one attempt, or a failed one and one more, with a newer
    lease if both have one. -/
inductive Tried : List (Trial α) → Except Error α → Prop
  | once {a : Attempt α} (done : a.failed = false) : Tried a.trials a.result
  | again {a b : Attempt α} (failed : a.failed = true)
      (newer : ∀ l ∈ a.lease?, ∀ l' ∈ b.lease?, l.generation < l'.generation) :
      Tried (a.trials ++ b.trials) b.result

/-! ### What a move adds -/

theorem History.trials_snoc (h : History κ α) (x : Transition κ α) :
    trials i (h ++ [x]) = h.trials i ++ x.trials i := by simp [trials]

namespace Transition

theorem entered?_of_enters (worker : m.worker? = some i) (enters : c'.Enters i q d) (same : c'.tasks = c.tasks)
    (task : c.tasks[i]? = some ⟨p, lock⟩) : (Transition.mk c m d).entered? i = some q := by
  obtain ⟨hi, -⟩ := List.getElem?_eq_some_iff.mp task
  simp [entered?, worker, enters.tasks, same, hi]

theorem entered?_of_other (idle : m.worker? ≠ some i) (there : i < c.tasks.length ∨ d.tasks.length ≤ i) :
    (Transition.mk c m d).entered? i = none := by
  rcases there with there | absent
  · simp [entered?, idle, Nat.not_le.mpr there]
  · simp [entered?, List.getElem?_eq_none absent]

theorem entered?_of_lock {l : Lock} (task : c.tasks[i]? = some ⟨p, none⟩) :
    (Transition.mk c (.step i) { c with tasks := c.tasks.set i ⟨p, some l⟩ }).entered? j = none := by
  obtain ⟨hi, -⟩ := List.getElem?_eq_some_iff.mp task
  by_cases hij : i = j
  · subst hij
    simp [entered?, Move.worker?, hi]
  · refine entered?_of_other (by simpa [Move.worker?] using hij) ?_
    rw [List.length_set]
    exact Nat.lt_or_ge _ _

theorem result?_of_other (idle : m.worker? ≠ some i) : (Transition.mk c m d).result? i = none := by
  cases m with
  | start | drop => rfl
  | step j | reply j =>
    have other : j ≠ i := fun same => idle (congrArg some same)
    simp [result?, other]

theorem result?_of_step (task : c.tasks[i]? = some ⟨p, lock⟩)
    (other : ∀ target again, p ≠ .rechecking target (.attempt again)) :
    (Transition.mk c (.step i) d).result? i = none := by
  simp only [result?, ↓reduceIte, Cache.rejection?, task, Option.map_eq_none_iff]
  split
  · rename_i same
    cases same
    exact absurd rfl (other _ _)
  · rfl

theorem result?_of_reply {r : Reply α} (task : c.tasks[i]? = some ⟨p, lock⟩) :
    (Transition.mk c (.reply i r) d).result? i = p.result? c r := by
  simp [result?, Cache.phase?_of_task task]

theorem trials_of_other (idle : m.worker? ≠ some i) (there : c.phase? i = some p) :
    (Transition.mk c m d).trials i = [] := by
  obtain ⟨l, task⟩ := Cache.phase?_eq_some.mp there
  obtain ⟨hi, -⟩ := List.getElem?_eq_some_iff.mp task
  simp [trials, result?_of_other idle, entered?_of_other idle (Or.inl hi)]

theorem trials_of_lock {l : Lock} (task : c.tasks[i]? = some ⟨p, none⟩) :
    (Transition.mk c (.step i) { c with tasks := c.tasks.set i ⟨p, some l⟩ }).trials i = [] := by
  have unlocked : c.rejection? i = none := by simp [Cache.rejection?, task]
  rw [trials, entered?_of_lock task]
  simp [result?, unlocked]

theorem entered?_of_start (call : Call κ) :
    (Transition.mk c (.start call) (c.start call)).entered? c.tasks.length = some (.ofCall call) := by
  simp [entered?, Cache.start]

theorem trials_of_enters (worker : m.worker? = some i) (enters : c'.Enters i q d) (same : c'.tasks = c.tasks)
    (task : c.tasks[i]? = some ⟨p, lock⟩) {result : Option (Except Error α)}
    (ends : (Transition.mk c m d).result? i = result) :
    (Transition.mk c m d).trials i = (result.map .ended).toList ++ q.trial?.toList := by
  rw [trials, ends, entered?_of_enters worker enters same task]
  rfl

end Transition

/-! ### Where a call stands in its attempts -/

/-- What a call went through before its present attempt: nothing, or a failed attempt whose operation, if it
    was run, made its handle unusable. -/
inductive Prior (h : History κ α) (i : Nat) (target : Target κ) : Bool → List (Trial α) → Prop
  | first : Prior h i target false []
  | again {a : Attempt α} (failed : a.failed = true)
      (broke : ∀ l ∈ a.lease?, l.fingerprint = target.fingerprint ∧ h.Broke i l) :
      Prior h i target true a.trials

def Newer (l : Lease) (ts : List (Trial α)) : Prop :=
  ∀ l₀, Trial.operated l₀ ∈ ts → l₀.generation < l.generation

/-- If the lease is acquired for an attempt, the attempt has begun; else there are no trials. -/
def Awaiting (h : History κ α) (i : Nat) (target : Target κ) (ts : List (Trial α)) : Purpose κ → Prop
  | .attempt again => ∃ before, Prior h i target again before ∧ ts = before ++ [.begun]
  | _ => ts = []

/-- If the entry is removed for an attempt, the operation of the attempt has failed on it; else there are no
    trials. -/
def Recovering (h : History κ α) (i : Nat) (ts : List (Trial α)) : Aftermath κ → Prop
  | .attempt target again e => ∃ before l, Prior h i target again before ∧ Newer l before ∧
      (e.connectionFailed = true ∧ l.fingerprint = target.fingerprint ∧ h.Broke i l) ∧
      ts = before ++ [.begun, .operated l, .ended (.error e)]
  | _ => ts = []

def Phase.Tries (h : History κ α) (i : Nat) (ts : List (Trial α)) : Phase κ α → Prop
  | looking target why | queueing target why | rechecking target why | dialing target why =>
    Awaiting h i target ts why
  | inserting e why => Awaiting h i e.target ts why
  | operating target again l => ∃ before, Prior h i target again before ∧ Newer l before ∧
      l.fingerprint = target.fingerprint ∧ ts = before ++ [.begun, .operated l]
  | removingLease _ why | closing _ why => Recovering h i ts why
  | finished (.ran r) => Tried ts r
  | dropped => ∃ rest r, Tried (ts ++ rest) r
  | _ => ts = []

section
variable {ts before : List (Trial α)} {why : Purpose κ} {e : Error}

theorem History.Broke.snoc (broke : h.Broke i l) : Broke (h ++ [x]) i l := by
  obtain ⟨r, hr, breaks⟩ := broke
  refine ⟨r, ?_, breaks⟩
  rw [History.exchanges_snoc]
  exact List.mem_append_left _ hr

theorem Prior.snoc (prior : Prior h i target again ts) : Prior (h ++ [x]) i target again ts := by
  cases prior with
  | first => exact .first
  | again failed broke => exact .again failed fun l hl => ⟨(broke l hl).1, (broke l hl).2.snoc⟩

theorem Awaiting.snoc (awaiting : Awaiting h i target ts why) : Awaiting (h ++ [x]) i target ts why := by
  cases why with
  | attempt =>
    obtain ⟨before, prior, hts⟩ := awaiting
    exact ⟨before, prior.snoc, hts⟩
  | _ => exact awaiting

theorem Recovering.snoc {why : Aftermath κ} (recovering : Recovering h i ts why) :
    Recovering (h ++ [x]) i ts why := by
  cases why with
  | attempt =>
    obtain ⟨before, l, prior, newer, ⟨connection, same, broke⟩, hts⟩ := recovering
    exact ⟨before, l, prior.snoc, newer, ⟨connection, same, broke.snoc⟩, hts⟩
  | _ => exact recovering

theorem Phase.Tries.snoc (tries : p.Tries h i ts) : p.Tries (h ++ [x]) i ts := by
  cases p with
  | looking | queueing | rechecking | dialing | inserting => exact Awaiting.snoc tries
  | operating =>
    obtain ⟨before, prior, rest⟩ := tries
    exact ⟨before, prior.snoc, rest⟩
  | removingLease | closing => exact Recovering.snoc tries
  | finished answer => cases answer <;> exact tries
  | _ => exact tries

theorem Phase.tries_toPing (none : ts = []) (rest : List (Entry κ)) (replaced : Nat) :
    (toPing rest replaced : Phase κ α).Tries h i ts := by
  cases rest <;> exact none

theorem Phase.tries_toClose (none : ts = []) (rest : List (Entry κ)) :
    (toClose rest : Phase κ α).Tries h i ts := by
  cases rest <;> exact none

theorem Prior.tried (prior : Prior h i target again before) {a : Attempt α}
    (newer : ∀ l ∈ a.lease?, Newer l before) (last : again = true ∨ a.failed = false) :
    Tried (before ++ a.trials) a.result := by
  cases prior with
  | first =>
    rcases last with last | done
    · cases last
    · exact .once done
  | @again b failed =>
    refine .again failed fun l hl l' hl' => newer l' hl' l ?_
    rw [Option.mem_def] at hl
    simp [Attempt.trials, hl]

/-- What made its handle unusable is gone before the next lease is obtained. -/
theorem Prior.newer (prior : Prior h i target again before) (same : l.fingerprint = target.fingerprint)
    (later : ∀ a, h.Broke i a → a.fingerprint = l.fingerprint → a.generation < l.generation) :
    Newer l before := by
  intro l₀ hl₀
  cases prior with
  | first => cases hl₀
  | @again a failed broke =>
    have operated : a.lease? = some l₀ := by
      cases ha : a.lease? <;> simp [Attempt.trials, ha] at hl₀
      rw [hl₀]
    obtain ⟨same₀, broke₀⟩ := broke l₀ operated
    exact later l₀ broke₀ (same₀.trans same.symm)

/-- After a failed attempt comes one more, or it was the last. -/
theorem Prior.settle (prior : Prior h i target again before) {a : Attempt α}
    (newer : ∀ l ∈ a.lease?, Newer l before) (error : a.result = .error e)
    (broke : ∀ l ∈ a.lease?, l.fingerprint = target.fingerprint ∧ h.Broke i l) :
    (Phase.afterFailure target again e : Phase κ α).Tries h i
      (before ++ a.trials ++ (Phase.afterFailure target again e : Phase κ α).trial?.toList) := by
  have failed : a.failed = e.isConnection := by rw [Attempt.failed, error, e.isConnection_eq]
  unfold Phase.afterFailure
  split
  · rename_i retry
    simp only [Bool.and_eq_true, Bool.not_eq_true'] at retry
    obtain ⟨connection, rfl⟩ := retry
    cases prior
    exact ⟨a.trials, .again (failed.trans connection) broke, rfl⟩
  · rename_i last
    have final : again = true ∨ a.failed = false := by
      rw [failed]
      cases again <;> simp_all
    have tried := prior.tried newer final
    simpa [Phase.trial?, Phase.Tries, error] using tried

theorem Awaiting.lent (awaiting : Awaiting h i target ts why) (same : l.fingerprint = target.fingerprint)
    (later : ∀ a, h.Broke i a → a.fingerprint = l.fingerprint → a.generation < l.generation) :
    (Phase.afterLease target why l : Phase κ α).Tries h i
      (ts ++ (Phase.afterLease target why l : Phase κ α).trial?.toList) := by
  cases why with
  | caller => simpa [Phase.afterLease, Phase.trial?, Phase.Tries, Awaiting] using awaiting
  | attempt again =>
    obtain ⟨before, prior, rfl⟩ := awaiting
    exact ⟨before, prior, prior.newer same later, same, by simp [Phase.afterLease, Phase.trial?]⟩
  | replace rest replaced =>
    rw [Phase.afterLease, Phase.trial?_toPing, Option.toList_none, List.append_nil]
    exact Phase.tries_toPing awaiting rest _

/-- How the attempt ends, if the lease was acquired for one. -/
def Purpose.result? (e : Error) : Purpose κ → Option (Except Error α)
  | .attempt _ => some (.error e)
  | _ => none

theorem Awaiting.refused (awaiting : Awaiting h i target ts why) (e : Error) :
    (Phase.afterRefusal target why e : Phase κ α).Tries h i
      (ts ++ (((why.result? e).map Trial.ended).toList ++
        (Phase.afterRefusal target why e : Phase κ α).trial?.toList)) := by
  cases why with
  | caller =>
    simpa [Phase.afterRefusal, Phase.trial?, Phase.Tries, Purpose.result?, Awaiting] using awaiting
  | attempt again =>
    obtain ⟨before, prior, rfl⟩ := awaiting
    have settled := prior.settle (a := ⟨none, .error e⟩) (by simp) rfl (by simp)
    simpa [Attempt.trials, Purpose.result?, Phase.afterRefusal] using settled
  | replace rest replaced =>
    simp only [Phase.afterRefusal, Phase.trial?_toPing, Purpose.result?, Option.map_none, Option.toList_none,
      List.append_nil]
    exact Phase.tries_toPing awaiting rest _

theorem Recovering.removed {why : Aftermath κ} (recovering : Recovering h i ts why) (found : Bool) :
    (Phase.afterRemoval why found : Phase κ α).Tries h i
      (ts ++ (Phase.afterRemoval why found : Phase κ α).trial?.toList) := by
  cases why with
  | caller => simpa [Phase.afterRemoval, Phase.trial?, Phase.Tries, Recovering] using recovering
  | attempt target again e =>
    obtain ⟨before, l, prior, newer, ⟨-, same, broke⟩, rfl⟩ := recovering
    have settled := prior.settle (a := ⟨some l, .error e⟩) (by simpa using newer) rfl (by simpa using ⟨same, broke⟩)
    simpa [Attempt.trials, Phase.afterRemoval] using settled
  | probe target rest replaced =>
    cases found
    · simp only [Phase.afterRemoval, Bool.false_eq_true, ↓reduceIte, Phase.trial?_toPing, Option.toList_none,
        List.append_nil]
      exact Phase.tries_toPing recovering rest replaced
    · simpa [Phase.afterRemoval, Phase.trial?, Phase.Tries, Awaiting, Recovering] using recovering
  | clear rest =>
    rw [Phase.afterRemoval, Phase.trial?_toClose, Option.toList_none, List.append_nil]
    exact Phase.tries_toClose recovering rest

theorem Phase.Tries.operated (tries : (operating target again l : Phase κ α).Tries h i ts) (a : α) :
    Tried (ts ++ [.ended (.ok a)]) (.ok a) := by
  obtain ⟨before, prior, newer, -, rfl⟩ := tries
  have tried := prior.tried (a := ⟨some l, .ok a⟩) (by simpa using newer) (Or.inr rfl)
  simpa [Attempt.trials] using tried

theorem Phase.Tries.failed (tries : (operating target again l : Phase κ α).Tries h i ts)
    (broke : e.isConnection = true → h.Broke i l) :
    (Phase.afterOperation target again l e : Phase κ α).Tries h i (ts ++ [.ended (.error e)]) := by
  obtain ⟨before, prior, newer, same, rfl⟩ := tries
  unfold Phase.afterOperation
  split
  · rename_i connection
    have failed := e.isConnection_eq.symm.trans connection
    exact ⟨before, l, prior, newer, ⟨failed, same, broke connection⟩, by simp⟩
  · rename_i sound
    have tried := prior.tried (a := ⟨some l, .error e⟩) (by simpa using newer)
      (Or.inr (e.isConnection_eq.symm.trans (eq_false_of_ne_true sound)))
    simpa [Attempt.trials, Phase.Tries] using tried

/-- So far as a call has come, it can still come to a result. -/
theorem Phase.Tries.completes (tries : p.Tries h i ts) : ∃ rest r, Tried (ts ++ rest) r := by
  have none_yet : ts = [] → ∃ rest r, Tried (ts ++ rest) r := by
    rintro rfl
    exact ⟨_, _, .once (a := ⟨none, .error .notFound⟩) rfl⟩
  have awaits : ∀ {target : Target κ} {why : Purpose κ}, Awaiting h i target ts why →
      ∃ rest r, Tried (ts ++ rest) r := fun {target why} awaiting => by
    cases why with
    | attempt =>
      obtain ⟨before, prior, rfl⟩ := awaiting
      have tried := prior.tried (a := ⟨none, .error .notFound⟩) (by simp) (Or.inr rfl)
      exact ⟨[.ended (.error .notFound)], _, by simpa [Attempt.trials] using tried⟩
    | _ => exact none_yet awaiting
  have recovers : ∀ {why : Aftermath κ}, Recovering h i ts why → ∃ rest r, Tried (ts ++ rest) r :=
      fun {why} recovering => by
    cases why with
    | attempt target again e =>
      obtain ⟨before, l, prior, newer, ⟨connection, -, -⟩, rfl⟩ := recovering
      cases prior with
      | first =>
        have tried := Tried.again (α := α) (a := ⟨some l, .error e⟩) (b := ⟨none, .error .notFound⟩) connection
          (by simp)
        exact ⟨_, _, by simpa [Attempt.trials] using tried⟩
      | again failed broke =>
        have tried := (Prior.again failed broke).tried (a := ⟨some l, .error e⟩) (by simpa using newer) (Or.inl rfl)
        exact ⟨[], _, by simpa [Attempt.trials] using tried⟩
    | _ => exact none_yet recovering
  cases p with
  | looking | queueing | rechecking | dialing | inserting => exact awaits tries
  | operating target again l =>
    obtain ⟨before, prior, newer, -, rfl⟩ := tries
    have tried := prior.tried (a := ⟨some l, .error .notFound⟩) (by simpa using newer) (Or.inr rfl)
    exact ⟨[.ended (.error .notFound)], _, by simpa [Attempt.trials] using tried⟩
  | removingLease | closing => exact recovers tries
  | finished answer =>
    cases answer with
    | ran r => exact ⟨[], r, by rwa [List.append_nil]⟩
    | _ => exact none_yet tries
  | dropped => exact tries
  | _ => exact none_yet tries

end

/-! ### Every call goes through its attempts -/

theorem Run.trials_of_new (new : Cache.ofOptions backend options order = .ok c₀) (run : Run c₀ h c)
    (unborn : c.tasks.length ≤ i) : h.trials i = [] := by
  rw [History.trials, List.flatMap_eq_nil_iff]
  intro x hx
  obtain ⟨idle, absent⟩ := run.untouched new unborn hx
  rw [Transition.trials, Transition.result?_of_other idle, Transition.entered?_of_other idle (Or.inr absent)]
  rfl

/-- Whoever is lent the target again is lent a newer handle than those that its operations made unusable. -/
theorem Run.newer_of_broke (new : Cache.ofOptions backend options order = .ok c₀) (run : Run c₀ h c)
    (move : c.move (.step i) = some d) (hp : c.phase? i = some p) (idle : p.condemns? = none)
    (alive : p.isDropped = false) (lent : c.lends? i = some l) {a : Lease} (broke : h.Broke i a)
    (same : a.fingerprint = l.fingerprint) : a.generation < l.generation := by
  have removed := (run.grounded new i p hp).removed_of_broke idle alive broke
  exact (run.snoc move).newer_of_lent? new removed (List.mem_singleton_self _) lent same

/-- Every task stands where its trials have brought it. -/
def Underway (h : History κ α) (c : Cache κ α) : Prop :=
  ∀ i p, c.phase? i = some p → p.Tries h i (h.trials i)

namespace Underway

theorem idle (k : Underway h c) (hp : c.phase? j = some p) (idle : m.worker? ≠ some j) :
    p.Tries (h ++ [⟨c, m, d⟩]) j (History.trials j (h ++ [⟨c, m, d⟩])) := by
  rw [History.trials_snoc, Transition.trials_of_other idle hp, List.append_nil]
  exact (k j p hp).snoc

theorem enter (k : Underway h c) (worker : m.worker? = some i) (enters : c'.Enters i q d)
    (same : c'.tasks = c.tasks) (task : c.tasks[i]? = some ⟨p, lock⟩) {result : Option (Except Error α)}
    (ends : (Transition.mk c m d).result? i = result)
    (tries : q.Tries (h ++ [⟨c, m, d⟩]) i
      (h.trials i ++ ((result.map .ended).toList ++ q.trial?.toList))) :
    Underway (h ++ [⟨c, m, d⟩]) d := by
  intro j p' hp
  rcases enters.phase_cases same hp with ⟨rfl, rfl⟩ | ⟨other, hp⟩
  · rw [History.trials_snoc, Transition.trials_of_enters worker enters same task ends]
    exact tries
  · refine k.idle hp fun busy => other ?_
    exact Option.some.inj (busy.symm.trans worker)

theorem pass (k : Underway h c) (worker : m.worker? = some i) (enters : c'.Enters i q d)
    (same : c'.tasks = c.tasks) (task : c.tasks[i]? = some ⟨p, lock⟩)
    (ends : (Transition.mk c m d).result? i = none)
    (tries : p.Tries h i (h.trials i) → q.Tries h i (h.trials i ++ q.trial?.toList)) :
    Underway (h ++ [⟨c, m, d⟩]) d :=
  k.enter worker enters same task ends (tries (k i p (Cache.phase?_of_task task))).snoc

theorem quiet (k : Underway h c) (worker : m.worker? = some i) (enters : c'.Enters i q d)
    (same : c'.tasks = c.tasks) (task : c.tasks[i]? = some ⟨p, lock⟩)
    (ends : (Transition.mk c m d).result? i = none) (begins : q.trial? = none)
    (tries : p.Tries h i (h.trials i) → q.Tries h i (h.trials i)) : Underway (h ++ [⟨c, m, d⟩]) d := by
  refine k.pass worker enters same task ends fun before => ?_
  rw [begins, Option.toList_none, List.append_nil]
  exact tries before

/-- A call that begins has begun its first attempt, if it is to run an operation. -/
theorem start (new : Cache.ofOptions backend options order = .ok c₀) (run : Run c₀ h c) (k : Underway h c)
    (call : Call κ) : Underway (h ++ [⟨c, .start call, c.start call⟩]) (c.start call) := by
  intro j p hp
  rcases Cache.start_phase_cases hp with hp | ⟨rfl, rfl⟩
  · exact k.idle hp (by simp [Move.worker?])
  · rw [History.trials_snoc, run.trials_of_new new (Nat.le_refl _), Transition.trials, Transition.entered?_of_start]
    cases call with
    | withConnection => exact ⟨[], .first, rfl⟩
    | _ => trivial

theorem locked {l : Lock} (k : Underway h c) (task : c.tasks[i]? = some ⟨p, none⟩) :
    Underway (h ++ [⟨c, .step i, { c with tasks := c.tasks.set i ⟨p, some l⟩ }⟩])
      { c with tasks := c.tasks.set i ⟨p, some l⟩ } := by
  intro j p hp
  rw [Cache.lock_phase? task] at hp
  by_cases hij : j = i
  · subst hij
    rw [History.trials_snoc, Transition.trials_of_lock task, List.append_nil]
    exact (k j p hp).snoc
  · exact k.idle hp fun same => hij (Option.some.inj same).symm

/-- A call that is given up has come as far as it was. -/
theorem drop (k : Underway h c) (enters : c'.Enters i .dropped d) (same : c'.tasks = c.tasks)
    (task : c.tasks[i]? = some ⟨p, lock⟩) : Underway (h ++ [⟨c, .drop i, d⟩]) d := by
  intro j p hp
  rcases enters.phase_cases same hp with ⟨rfl, rfl⟩ | ⟨-, hp⟩
  · rw [History.trials_snoc, Transition.trials_of_other (by simp [Move.worker?]) (Cache.phase?_of_task task),
      List.append_nil]
    exact (k _ _ (Cache.phase?_of_task task)).completes
  · exact k.idle hp (by simp [Move.worker?])

/-- A lease is obtained. Before it looks again, a call has evicted the handle that failed it; whatever it is lent is
    newer. -/
theorem lent {why : Purpose κ} (new : Cache.ofOptions backend options order = .ok c₀) (run : Run c₀ h c)
    (k : Underway h c) (move : c.move (.step i) = some d) (enters : c'.Enters i (.afterLease target why l) d)
    (same : c'.tasks = c.tasks) (task : c.tasks[i]? = some ⟨p, lock⟩)
    (ends : (Transition.mk c (.step i) d).result? i = none) (lent : c.lends? i = some l)
    (own : l.fingerprint = target.fingerprint) (idle : p.condemns? = none) (alive : p.isDropped = false)
    (awaits : p.Tries h i (h.trials i) → Awaiting h i target (h.trials i) why) :
    Underway (h ++ [⟨c, .step i, d⟩]) d := by
  refine k.pass rfl enters same task ends fun tries => Awaiting.lent (awaits tries) own fun a => ?_
  exact run.newer_of_broke new move (Cache.phase?_of_task task) idle alive lent

/-- The target is refused, or cannot be dialed. -/
theorem refused {why : Purpose κ} {err : Error} (k : Underway h c) (worker : m.worker? = some i)
    (enters : c'.Enters i (.afterRefusal target why err) d) (same : c'.tasks = c.tasks)
    (task : c.tasks[i]? = some ⟨p, lock⟩) (ends : (Transition.mk c m d).result? i = why.result? err)
    (awaits : p.Tries h i (h.trials i) → Awaiting h i target (h.trials i) why) :
    Underway (h ++ [⟨c, m, d⟩]) d :=
  k.enter worker enters same task ends (Awaiting.refused (awaits (k i p (Cache.phase?_of_task task))) err).snoc

/-- The operation of an attempt fails. -/
theorem failed {r : Reply α} {err : Error} (k : Underway h c)
    (enters : c'.Enters i (.afterOperation target again l err) d) (same : c'.tasks = c.tasks)
    (task : c.tasks[i]? = some ⟨.operating target again l, lock⟩)
    (reply : r = .failure err ∨ r = .overdue ∧ err = c.operationOverdue) :
    Underway (h ++ [⟨c, .reply i r, d⟩]) d := by
  have ends : (Transition.mk c (.reply i r) d).result? i = some (.error err) := by
    rw [Transition.result?_of_reply task]
    rcases reply with rfl | ⟨rfl, rfl⟩ <;> rfl
  refine k.enter rfl enters same task ends ?_
  rw [Phase.trial?_afterOperation]
  refine (k i _ (Cache.phase?_of_task task)).snoc.failed fun connection => ⟨r, ?_, ?_⟩
  · rw [History.exchanges_snoc, Transition.exchange?_of_reply task rfl]
    exact List.mem_append_right _ (List.mem_singleton_self _)
  · rcases reply with rfl | ⟨rfl, -⟩
    · exact err.isConnection_eq.symm.trans connection
    · rfl

theorem snoc (new : Cache.ofOptions backend options order = .ok c₀) (run : Run c₀ h c) (k : Underway h c)
    (move : c.move m = some d) : Underway (h ++ [⟨c, m, d⟩]) d := by
  have does := Cache.does_of_move move
  cases does with
  | @start call => exact k.start new run call
  | lock task => exact k.locked task
  | drop task _ enters => exact k.drop enters rfl task
  | @hit i target why l e _ task entry enters =>
    have lent : c.lends? i = some e.lease := by simp [Cache.lends?, task, entry]
    exact k.lent new run move enters rfl task (Transition.result?_of_step task (by simp)) lent
      (Cache.entry?_eq_some entry).2 rfl rfl id
  | @share i target why l e _ task entry enters =>
    have lent : c.lends? i = some e.lease := by simp [Cache.lends?, task, entry]
    refine k.lent new run move enters rfl task ?_ lent (Cache.entry?_eq_some entry).2 rfl rfl id
    cases why <;> simp [Transition.result?, Cache.rejection?, task, entry]
  | @insert i e why l _ task enters =>
    have lent : c.lends? i = some e.lease := by simp [Cache.lends?, task]
    exact k.lent new run move enters rfl task (Transition.result?_of_step task (by simp)) lent rfl rfl rfl id
  | @reject i target why l err _ task entry check enters =>
    refine k.refused rfl enters rfl task ?_ id
    cases why <;> simp [Transition.result?, Cache.rejection?, task, entry, check, Purpose.result?]
  | @undialed i target why l r err _ task reply enters =>
    refine k.refused rfl enters rfl task ?_ id
    rw [Transition.result?_of_reply task]
    rcases reply with rfl | ⟨rfl, rfl⟩ <;> cases why <;> rfl
  | evictNone task entry enters =>
    exact k.pass rfl enters rfl task (Transition.result?_of_step task (by simp)) fun recovering =>
      Recovering.removed recovering false
  | closed task reply enters =>
    exact k.pass rfl enters rfl task (Transition.result?_of_reply task) fun recovering =>
      Recovering.removed recovering true
  | @operated i target again lease l a _ task enters =>
    refine k.enter rfl enters rfl task (Transition.result?_of_reply task) ?_
    exact Phase.Tries.operated (k i _ (Cache.phase?_of_task task)) a
  | failed task reply enters => exact k.failed enters rfl task reply
  | @dial i target why l _ task entry check enters =>
    refine k.quiet rfl enters rfl task ?_ rfl id
    cases why <;> simp [Transition.result?, Cache.rejection?, task, entry, check]
  | @dialed i target why l _ task enters =>
    refine k.quiet rfl enters rfl task ?_ rfl id
    rw [Transition.result?_of_reply task]
    cases why <;> rfl
  | miss task _ enters | remove task _ enters | removeNone task _ enters | evict task _ _ enters =>
    exact k.quiet rfl enters rfl task (Transition.result?_of_step task (by simp)) rfl id
  | queue task enters | count task enters | contain task enters =>
    exact k.quiet rfl enters rfl task (Transition.result?_of_step task (by simp)) rfl id
  | drain task _ enters =>
    exact k.quiet rfl enters rfl task (Transition.result?_of_step task (by simp)) (Phase.trial?_toClose _)
      fun tries => Phase.tries_toClose tries _
  | note task _ enters =>
    exact k.quiet rfl enters rfl task (Transition.result?_of_step task (by simp)) (Phase.trial?_toPing _ _)
      fun tries => Phase.tries_toPing tries _ _
  | pinged task enters =>
    exact k.quiet rfl enters rfl task (Transition.result?_of_reply task) (Phase.trial?_toPing _ _)
      fun tries => Phase.tries_toPing tries _ _
  | unpinged task _ enters => exact k.quiet rfl enters rfl task (Transition.result?_of_reply task) rfl id

end Underway

theorem Run.underway (new : Cache.ofOptions backend options order = .ok c₀) (run : Run c₀ h c) : Underway h c := by
  induction run with
  | nil =>
    rw [Cache.ofOptions_eq_ok new]
    intro i p hp
    cases hp
  | snoc run move ih => exact ih.snoc new run move

end StoreAccess
