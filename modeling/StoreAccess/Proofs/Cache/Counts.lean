import Mathlib.Algebra.BigOperators.Group.Finset.Piecewise
import StoreAccess.Proofs.Cache.Conservation
import StoreAccess.Proofs.Cache.Tallies
import StoreAccess.Proofs.Cache.Termination

/-! The counts of a cache add up. At every state each count is what became of those who were counted before, less
    those who are on their way (`Tallied`); when all calls are over nobody is on the way. -/

namespace StoreAccess

variable {κ α : Type} [BackendConfig κ] {backend : BackendKind} {options : CacheOptions} {order : EntryOrder}
  {c₀ c d : Cache κ α} {h : History κ α} {i : Nat} {m : Move κ α} {p q : Phase κ α} {x : Transition κ α}

/-! ### What a history counts -/

/-- The phase that a task enters by a move. -/
def Transition.entering? (x : Transition κ α) : Option (Phase κ α) :=
  match x.move with
  | .start call => some (.ofCall call)
  | .step i | .reply i _ => x.entered? i
  | .drop _ => none

def Call.operates : Call κ → Bool
  | withConnection _ => true
  | _ => false

/-- Whether the connection failed, if an attempt ended. -/
def Trial.failed? : Trial α → Option Bool
  | ended (.ok _) => some false
  | ended (.error e) => some e.connectionFailed
  | _ => none

namespace History

/-- The acquisitions that have begun, each with what it is for: a caller, an attempt to run an operation, or the
    replacement of a handle that failed its probe. -/
def acquisitions (h : History κ α) : List (Purpose κ) :=
  h.flatMap fun x => x.entering?.elim [] Phase.wanted

/-- The call runs an operation. -/
def operates (h : History κ α) (i : Nat) : Bool := h.calls[i]?.any Call.operates

def attempts (h : History κ α) (i : Nat) : Nat := (h.trials i).countP Trial.isBegun

/-- The call runs an operation, and the connection failed in its first attempt. -/
def retries (h : History κ α) (i : Nat) : Bool :=
  h.operates i && (h.trials i).findSome? Trial.failed? == some true

theorem attempts_snoc (h : History κ α) (x : Transition κ α) (i : Nat) :
    attempts (h ++ [x]) i = h.attempts i + (x.trials i).countP Trial.isBegun := by
  rw [attempts, trials_snoc, List.countP_append, attempts]

theorem acquisitions_snoc (h : History κ α) (x : Transition κ α) :
    acquisitions (h ++ [x]) = h.acquisitions ++ x.entering?.elim [] Phase.wanted := by
  simp [acquisitions]

theorem countP_snoc (h : History κ α) (x : Transition κ α) (P : Transition κ α → Bool) :
    (h ++ [x]).countP P = h.countP P + (P x).toNat := by
  rw [List.countP_append, List.countP_singleton]
  cases P x <;> rfl

end History

namespace Cache

theorem length_inHand {β : Type} (f : Phase κ α → List β) {l : Option Lock} (task : c.tasks[i]? = some ⟨p, l⟩)
    (tasks : d.tasks = c.tasks.set i ⟨q, none⟩) :
    (d.inHand f).length + (f p).length = (c.inHand f).length + (f q).length := by
  simp only [inHand, List.length_flatMap, tasks]
  exact sum_map_set (fun t : Task κ α => (f t.phase).length) ⟨q, none⟩ task

theorem length_inHand_of_lock {β : Type} (f : Phase κ α → List β) {l : Lock} (task : c.tasks[i]? = some ⟨p, none⟩) :
    (Cache.inHand f { c with tasks := c.tasks.set i ⟨p, some l⟩ }).length = (c.inHand f).length := by
  have set := sum_map_set (fun t : Task κ α => (f t.phase).length) ⟨p, some l⟩ task
  simp only [inHand, List.length_flatMap]
  exact Nat.add_right_cancel set

/-- How many calls are looking for a target. -/
def looking (c : Cache κ α) : Nat := (c.inHand Phase.wanted).length

/-- How many calls have missed a target and not dialed it yet. -/
def missing (c : Cache κ α) : Nat := (c.inHand Phase.missing).length

end Cache

/-- What is counted has been seen, but for what is on the way. -/
structure Tallied (h : History κ α) (c : Cache κ α) : Prop where
  looked : c.stats.hits + c.stats.misses + c.looking = h.acquisitions.length
  missed : c.stats.misses = c.stats.dials + c.stats.dialFailures + h.countP Transition.rejected +
    h.countP Transition.shared + c.missing
  removed : c.stats.invalidations = c.stats.closes + c.closingNow.length
  closed : c.stats.closes = h.closed.length
  retried : ∑ i ∈ Finset.range c.tasks.length, h.attempts i =
    (∑ i ∈ Finset.range c.tasks.length, (h.operates i).toNat) + c.stats.retries
  probed : c.stats.probeFailures = h.countP Transition.failedProbe

/-! ### One move -/

namespace Transition

theorem countP_trials (x : Transition κ α) (i : Nat) :
    (x.trials i).countP Trial.isBegun = (x.entered? i).elim 0 Phase.attempts := by
  have ended : ((x.result? i).map Trial.ended).toList.countP Trial.isBegun = 0 := by
    cases x.result? i <;> rfl
  rw [trials, List.countP_append, ended, Nat.zero_add]
  cases x.entered? i <;> rfl

namespace Passage

variable {counts : List Tally}

theorem entered? (k : (Transition.mk c m d).Passage i p q counts) :
    (Transition.mk c m d).entered? i = some q ∧ (Transition.mk c m d).entering? = some q := by
  obtain ⟨l, task⟩ := Cache.phase?_eq_some.mp k.task
  obtain ⟨hi, -⟩ := List.getElem?_eq_some_iff.mp task
  have worker : m.worker? = some i := k.worker
  have tasks : d.tasks = c.tasks.set i ⟨q, none⟩ := k.tasks
  have entered : (Transition.mk c m d).entered? i = some q := by simp [Transition.entered?, worker, tasks, hi]
  refine ⟨entered, ?_⟩
  cases m with
  | start | drop => cases worker
  | step | reply =>
    cases worker
    exact entered

theorem sum_attempts (k : (Transition.mk c m d).Passage i p q counts) :
    ∑ j ∈ Finset.range c.tasks.length, ((Transition.mk c m d).trials j).countP Trial.isBegun = q.attempts := by
  obtain ⟨l, task⟩ := Cache.phase?_eq_some.mp k.task
  obtain ⟨hi, -⟩ := List.getElem?_eq_some_iff.mp task
  have worker : m.worker? = some i := k.worker
  rw [Finset.sum_eq_single_of_mem i (Finset.mem_range.mpr hi)]
  · rw [countP_trials, k.entered?.1]
    rfl
  · intro j hj other
    rw [countP_trials, entered?_of_other (by simpa [worker] using other.symm) (Or.inl (Finset.mem_range.mp hj))]
    rfl

end Passage

end Transition

namespace Tallied

variable {counts : List Tally}

theorem snoc_passage (k : Tallied h c) (x : (Transition.mk c m d).Passage i p q counts) :
    Tallied (h ++ [⟨c, m, d⟩]) d := by
  obtain ⟨l, task⟩ := Cache.phase?_eq_some.mp x.task
  obtain ⟨-, entering⟩ := x.entered?
  have length : d.tasks.length = c.tasks.length := by rw [x.tasks, List.length_set]
  have calls : History.calls (h ++ [⟨c, m, d⟩]) = h.calls := by
    have uncalled : m.call? = none := by
      have worker := x.worker
      cases m <;> first | rfl | cases worker
    simp [History.calls, uncalled]
  have stats : ∀ t, d.stats.get t = c.stats.get t + (counts.count t + q.counted.count t) := fun t => by
    rw [x.stats, CacheStats.get_recordAll, List.count_append]
  have left : ∀ t, t ≠ .invalidation → t ≠ .retry → d.stats.get t = c.stats.get t + counts.count t :=
    fun t removal retry => by rw [stats, Phase.count_counted removal retry, Nat.add_zero]
  obtain ⟨removals, retries⟩ := x.plain
  obtain ⟨looked, missed, removed, closed, retried, probed⟩ := k
  have closes : d.stats.closes = c.stats.closes + counts.count .close := left .close (by simp) (by simp)
  have misses : d.stats.misses = c.stats.misses + counts.count .miss := left .miss (by simp) (by simp)
  refine ⟨?_, ?_, ?_, ?_, ?_, ?_⟩
  · have hits : d.stats.hits = c.stats.hits + counts.count .hit := left .hit (by simp) (by simp)
    have looking := Cache.length_inHand (c := c) (d := d) (q := q) Phase.wanted task x.tasks
    have acquired := x.looked
    rw [History.acquisitions_snoc, List.length_append, entering]
    simp only [Cache.looking, Option.elim_some] at looked ⊢
    omega
  · have dials : d.stats.dials = c.stats.dials + counts.count .dial := left .dial (by simp) (by simp)
    have failures : d.stats.dialFailures = c.stats.dialFailures + counts.count .dialFailure :=
      left .dialFailure (by simp) (by simp)
    have missing := Cache.length_inHand (c := c) (d := d) (q := q) Phase.missing task x.tasks
    have found := x.missed
    rw [History.countP_snoc, History.countP_snoc]
    simp only [Cache.missing] at missed ⊢
    omega
  · have invalidations : d.stats.invalidations = c.stats.invalidations + _ := stats .invalidation
    have closing := Cache.length_inHand (c := c) (d := d) (q := q) Phase.closingNow task x.tasks
    have ended := x.closed.1
    rw [Phase.count_invalidation_counted] at invalidations
    simp only [Cache.closingNow] at removed ⊢
    omega
  · have ended := x.closed
    rw [History.closed_snoc, List.length_append]
    omega
  · have again : d.stats.retries = c.stats.retries + _ := stats .retry
    have begun := x.sum_attempts
    have attempts := x.attempts
    simp only [History.attempts_snoc, Finset.sum_add_distrib, length, begun]
    simp only [History.operates, calls] at retried ⊢
    omega
  · have failures : d.stats.probeFailures = c.stats.probeFailures + counts.count .probeFailure :=
      left .probeFailure (by simp) (by simp)
    have seen := x.probed
    rw [History.countP_snoc]
    omega

theorem snoc_lock {l : Lock} (k : Tallied h c) (task : c.tasks[i]? = some ⟨p, none⟩) :
    Tallied (h ++ [⟨c, .step i, { c with tasks := c.tasks.set i ⟨p, some l⟩ }⟩])
      { c with tasks := c.tasks.set i ⟨p, some l⟩ } := by
  have unmarked : c.rechecked? i = none := by simp [Cache.rechecked?, task]
  have calls : ∀ d, History.calls (h ++ [⟨c, .step i, d⟩]) = h.calls := fun d => by
    simp [History.calls, Move.call?]
  have entered : ∀ j, (Transition.mk c (.step i) { c with tasks := c.tasks.set i ⟨p, some l⟩ }).entered? j = none :=
    fun j => Transition.entered?_of_lock task
  obtain ⟨looked, missed, removed, closed, retried, probed⟩ := k
  refine ⟨?_, ?_, ?_, ?_, ?_, ?_⟩
  · rw [History.acquisitions_snoc, List.length_append, Cache.looking, Cache.length_inHand_of_lock _ task]
    simpa [Transition.entering?, entered, Cache.looking] using looked
  · rw [History.countP_snoc, History.countP_snoc, Cache.missing, Cache.length_inHand_of_lock _ task]
    simpa [Transition.rejected, Transition.shared, unmarked, Cache.missing] using missed
  · rw [Cache.closingNow, Cache.length_inHand_of_lock _ task]
    exact removed
  · rw [History.closed_snoc, List.length_append]
    exact closed
  · simpa [History.attempts_snoc, Transition.countP_trials, entered, History.operates, calls] using retried
  · rw [History.countP_snoc]
    exact probed

theorem snoc_start (new : Cache.ofOptions backend options order = .ok c₀) (run : Run c₀ h c) (k : Tallied h c)
    (call : Call κ) : Tallied (h ++ [⟨c, .start call, c.start call⟩]) (c.start call) := by
  obtain ⟨looked, missed, removed, closed, retried, probed⟩ := k
  have hand : ∀ {β : Type} (f : Phase κ α → List β), ((c.start call).inHand f).length =
      (c.inHand f).length + (f (.ofCall call)).length := fun f => by
    simp [Cache.inHand, Cache.start]
  have stats : (c.start call).stats = c.stats := rfl
  have unmissed : (Phase.ofCall call : Phase κ α).missing = [] := by cases call <;> rfl
  have unclosed : (Phase.ofCall call : Phase κ α).closingNow = [] := by cases call <;> rfl
  refine ⟨?_, ?_, ?_, ?_, ?_, ?_⟩
  · rw [History.acquisitions_snoc, List.length_append, Cache.looking, hand, stats]
    simp only [Cache.looking] at looked
    simp only [Transition.entering?, Option.elim_some]
    omega
  · rw [History.countP_snoc, History.countP_snoc, Cache.missing, hand, unmissed, stats]
    exact missed
  · rw [Cache.closingNow, hand, unclosed, stats]
    exact removed
  · rw [History.closed_snoc, List.length_append]
    exact closed
  · have length : c.tasks.length = h.calls.length := (run.admitted new).length
    have calls : History.calls (h ++ [⟨c, .start call, c.start call⟩]) = h.calls ++ [call] := by
      simp [History.calls, Move.call?]
    have begun : (Phase.ofCall call : Phase κ α).attempts = call.operates.toNat := by cases call <;> rfl
    have earlier : ∀ i ∈ Finset.range c.tasks.length,
        History.attempts (h ++ [⟨c, .start call, c.start call⟩]) i = h.attempts i ∧
          History.operates (h ++ [⟨c, .start call, c.start call⟩]) i = h.operates i := fun i hi => by
      have there := Finset.mem_range.mp hi
      refine ⟨?_, ?_⟩
      · rw [History.attempts_snoc, Transition.countP_trials, Transition.entered?_of_other (by simp [Move.worker?])
          (Or.inl there)]
        rfl
      · rw [History.operates, calls, List.getElem?_append_left (length ▸ there), History.operates]
    have attempts : ∑ i ∈ Finset.range c.tasks.length, History.attempts (h ++ [⟨c, .start call, c.start call⟩]) i =
        ∑ i ∈ Finset.range c.tasks.length, h.attempts i := Finset.sum_congr rfl fun i hi => (earlier i hi).1
    have operates :
        ∑ i ∈ Finset.range c.tasks.length, (History.operates (h ++ [⟨c, .start call, c.start call⟩]) i).toNat =
          ∑ i ∈ Finset.range c.tasks.length, (h.operates i).toNat :=
      Finset.sum_congr rfl fun i hi => congrArg Bool.toNat (earlier i hi).2
    have first : History.attempts (h ++ [⟨c, .start call, c.start call⟩]) c.tasks.length = call.operates.toNat := by
      rw [History.attempts_snoc, Transition.countP_trials, Transition.entered?_of_start, Option.elim_some, begun,
        History.attempts, run.trials_of_new new (Nat.le_refl _)]
      exact Nat.zero_add _
    have last : History.operates (h ++ [⟨c, .start call, c.start call⟩]) c.tasks.length = call.operates := by
      rw [History.operates, calls, length, List.getElem?_concat_length]
      rfl
    have born : (c.start call).tasks.length = c.tasks.length + 1 := by simp [Cache.start]
    rw [born, Finset.sum_range_succ, Finset.sum_range_succ, stats, attempts, operates, first, last]
    omega
  · rw [History.countP_snoc]
    exact probed

end Tallied

theorem Run.tallied (new : Cache.ofOptions backend options order = .ok c₀) (run : Run c₀ h c)
    (undropped : h.Undropped) : Tallied h c := by
  induction run with
  | nil =>
    rw [Cache.ofOptions_eq_ok new]
    exact ⟨rfl, rfl, rfl, rfl, rfl, rfl⟩
  | @snoc h c d m run move ih =>
    have k := ih fun x hx => undropped x (List.mem_append_left _ hx)
    cases m with
    | start call =>
      cases move
      exact k.snoc_start new run call
    | step i =>
      rcases Transition.passage_of_step move with ⟨p, l, task, rfl⟩ | ⟨p, q, counts, passage⟩
      · exact k.snoc_lock task
      · exact k.snoc_passage passage
    | reply i r =>
      obtain ⟨p, q, counts, passage⟩ := Transition.passage_of_reply move
      exact k.snoc_passage passage
    | drop i => cases undropped _ (List.mem_append_right _ (List.mem_singleton_self _))

/-! ### When all calls are over -/

/-- How often an attempt begins that ends, and whether the connection failed in the first one. -/
theorem Tried.begun {ts : List (Trial α)} {r : Except Error α} (tried : Tried ts r) :
    ts.countP Trial.isBegun = 1 + (ts.findSome? Trial.failed? == some true).toNat := by
  have one : ∀ a : Attempt α, a.trials.countP Trial.isBegun = 1 := fun a => by
    obtain ⟨l?, r⟩ := a
    cases l? <;> rfl
  have first : ∀ (a : Attempt α) (rest : List (Trial α)),
      (a.trials ++ rest).findSome? Trial.failed? = some a.failed := fun a rest => by
    obtain ⟨l?, r⟩ := a
    cases l? <;> cases r <;> rfl
  cases tried with
  | @once a done =>
    rw [one, ← List.append_nil a.trials, first, done]
    rfl
  | @again a b failed =>
    rw [List.countP_append, one, one, first, failed]
    rfl

theorem Run.attempts_eq (new : Cache.ofOptions backend options order = .ok c₀) (run : Run c₀ h c)
    {a : CallAnswer α} (hp : c.phase? i = some (.finished a)) :
    h.attempts i = (h.operates i).toNat + (h.retries i).toNat := by
  have admitted := run.admitted new
  have tries := run.underway new i _ hp
  obtain ⟨l, task⟩ := Cache.phase?_eq_some.mp hp
  obtain ⟨hi, -⟩ := List.getElem?_eq_some_iff.mp task
  obtain ⟨call, hcall⟩ : ∃ call, h.calls[i]? = some call := ⟨_, List.getElem?_eq_getElem (admitted.length ▸ hi)⟩
  have answers : call.Answers a := admitted.admits i _ _ hcall hp
  have operates : h.operates i = call.operates := by rw [History.operates, hcall, Option.any_some]
  cases runs : call.operates with
  | true =>
    cases call with
    | withConnection config =>
      obtain ⟨r, rfl⟩ := answers.ran
      have tried : Tried (h.trials i) r := tries
      rw [History.retries, operates, runs, Bool.true_and, History.attempts]
      exact tried.begun
    | _ => cases runs
  | false =>
    have untried : h.trials i = [] := by
      cases a with
      | ran =>
        obtain ⟨config, rfl⟩ := answers
        cases runs
      | _ => exact tries
    rw [History.retries, operates, runs, History.attempts, untried]
    rfl

/-- The counts when all calls are over. -/
structure Totals (h : History κ α) (c : Cache κ α) : Prop where
  acquired : c.stats.hits + c.stats.misses = h.acquisitions.length
  missed : c.stats.misses = c.stats.dials + c.stats.dialFailures + h.countP Transition.rejected +
    h.countP Transition.shared
  kept : c.stats.dials = c.entries.length + c.stats.closes
  closed : c.stats.invalidations = c.stats.closes
  retried : c.stats.retries = ((Finset.range h.calls.length).filter fun i => h.retries i).card
  probed : c.stats.probeFailures = h.countP Transition.failedProbe

/-- How the counts bound each other in every state, and what they are when all calls are over. -/
structure Counted (h : History κ α) (c : Cache κ α) : Prop where
  closes_le : c.stats.closes ≤ c.stats.invalidations
  invalidations_le : c.stats.invalidations ≤ c.stats.dials
  entries_le : c.entries.length ≤ c.stats.dials - c.stats.invalidations
  ended : (∀ i p, c.phase? i = some p → p.isOver = true) → Totals h c

theorem Ledger.length_dialed (k : Ledger h c) : h.dialed.length = c.stats.dials := by
  rw [← List.length_map (f := Lease.handle), k.handles, List.length_range']

theorem Run.card_retries (new : Cache.ofOptions backend options order = .ok c₀) (run : Run c₀ h c) (k : Tallied h c)
    (finished : ∀ i < c.tasks.length, ∃ a, c.phase? i = some (.finished a)) :
    c.stats.retries = ((Finset.range h.calls.length).filter fun i => h.retries i).card := by
  have length : c.tasks.length = h.calls.length := (run.admitted new).length
  have attempts : ∑ i ∈ Finset.range c.tasks.length, h.attempts i =
      ∑ i ∈ Finset.range c.tasks.length, ((h.operates i).toNat + (h.retries i).toNat) :=
    Finset.sum_congr rfl fun i hi => by
      obtain ⟨a, hp⟩ := finished i (Finset.mem_range.mp hi)
      exact run.attempts_eq new hp
  have card : ((Finset.range c.tasks.length).filter fun i => h.retries i).card =
      ∑ i ∈ Finset.range c.tasks.length, (h.retries i).toNat := by
    rw [Finset.card_filter]
    refine Finset.sum_congr rfl fun i _ => ?_
    cases h.retries i <;> rfl
  have retried := k.retried
  rw [attempts, Finset.sum_add_distrib] at retried
  rw [← length, card]
  omega

/-- However calls run side by side, the counts of a cache add up if none is given up. -/
theorem Run.counted (new : Cache.ofOptions backend options order = .ok c₀) (run : Run c₀ h c)
    (undropped : h.Undropped) : Counted h c := by
  have k := run.ledger new
  obtain ⟨looked, missed, removed, closed, -, probed⟩ := run.tallied new undropped
  have books := (k.dialed_perm undropped).length_eq
  have owed : c.owed.length = c.closingNow.length + c.waiting.length := by
    simp [Cache.owed, Cache.closingNow, Cache.waiting, Cache.inHand, Phase.owed, List.length_flatMap]
  have cached : c.cached.length = c.entries.length := List.length_map _
  simp only [List.length_append, k.length_dialed] at books
  refine ⟨by omega, by omega, by omega, fun ended => ?_⟩
  -- Nobody is on the way any more.
  have none : ∀ {β : Type} {f : Phase κ α → List β}, (∀ p, p.isOver = true → f p = []) → (c.inHand f).length = 0 :=
    fun hf => by rw [Cache.inHand_eq_nil hf ended]; rfl
  have looking : c.looking = 0 := none fun p hp => by cases p <;> first | rfl | cases hp
  have missing : c.missing = 0 := none fun p hp => by cases p <;> first | rfl | cases hp
  have closing : c.closingNow.length = 0 := none fun p hp => by cases p <;> first | rfl | cases hp
  have waiting : c.waiting.length = 0 := none fun p hp => by cases p <;> first | rfl | cases hp
  have held : c.held.length = 0 := none fun p hp => by cases p <;> first | rfl | cases hp
  refine ⟨by omega, by omega, by omega, by omega, ?_, probed⟩
  refine run.card_retries new (run.tallied new undropped) fun i hi => ?_
  have hp := Cache.phase?_of_task (List.getElem?_eq_getElem hi)
  obtain ⟨a, answer⟩ := run.answered_of_over new (fun x hx => by simp [undropped x hx]) hp (ended i _ hp)
  exact ⟨a, Cache.answer?_eq_some.mp answer⟩

/-- One caller finds the handle of another gone, a third has dialed the target anew, and the first runs its operation
    once more: two handles were dialed, one of them was removed and closed. -/
theorem Site.contended_counted :
    Cache.ofOptions .keyValue .default .ofInsertion = .ok Site.cache ∧
      Run Site.cache (Site.replay Site.contended).1 (Site.replay Site.contended).2 ∧
      (Site.replay Site.contended).1.Undropped ∧
      Counted (Site.replay Site.contended).1 (Site.replay Site.contended).2 ∧
      Totals (Site.replay Site.contended).1 (Site.replay Site.contended).2 ∧
      (Site.replay Site.contended).2.stats = ⟨2, 0, 1, 2, 1, 1, 1, 0⟩ := by
  have run := Site.run Site.contended rfl
  have undropped : (Site.replay Site.contended).1.Undropped := by unfold History.Undropped; decide
  have counted := Run.counted Site.new run undropped
  refine ⟨Site.new, run, undropped, counted, counted.ended fun i p hp => ?_, rfl⟩
  obtain ⟨l, task⟩ := Cache.phase?_eq_some.mp hp
  have ended : ∀ t ∈ (Site.replay Site.contended).2.tasks, t.phase.isOver = true := by decide
  exact ended _ (List.mem_of_getElem? task)

end StoreAccess
