import StoreAccess.Proofs.Cache.Trials

/-! How often an operation is tried. A call that runs one makes an attempt: it acquires a lease, and runs
    the operation on it. Only if the attempt fails as the connection does it makes one more, and its answer
    is the result of its last attempt. What failed is evicted in between, so the second lease is newer,
    whatever other callers do to the target meanwhile. -/

namespace StoreAccess

variable {κ α : Type} [BackendConfig κ] {backend : BackendKind} {options : CacheOptions} {order : EntryOrder}
  {c₀ c c' d : Cache κ α} {h : History κ α} {i j : Nat} {m : Move κ α} {q : Phase κ α}

/-! ### Operations -/

def Request.operates? : Request κ → Option Lease
  | .operate l => some l
  | _ => none

/-- The leases on which the client was asked to run the operation of a task. -/
def Cache.operations (c : Cache κ α) (i : Nat) : List Lease :=
  c.requests.filterMap fun x => if x.1 = i then x.2.operates? else none

def Phase.operates? (p : Phase κ α) : Option Lease := p.request?.bind Request.operates?

theorem Phase.lease?_of_trial? (p : Phase κ α) : p.trial?.bind Trial.lease? = p.operates? := by
  cases p with
  | looking _ why => cases why <;> rfl
  | _ => rfl

theorem Transition.leases_eq (x : Transition κ α) :
    (x.trials i).filterMap Trial.lease? = ((x.entered? i).bind Phase.operates?).toList := by
  have ended : (((x.result? i).map Trial.ended).toList).filterMap Trial.lease? = [] := by
    cases x.result? i <;> rfl
  rw [trials, List.filterMap_append, ended, List.nil_append]
  cases x.entered? i with
  | none => rfl
  | some p =>
    rw [Option.bind_some, Option.bind_some, ← p.lease?_of_trial?]
    cases p.trial? with
    | none => rfl
    | some t => cases t <;> rfl

namespace Cache

theorem Enters.operations_eq (enters : c'.Enters i q d) (same : c'.events = c.events) :
    d.operations j = c.operations j ++ if i = j then q.operates?.toList else [] := by
  have requests_eq : c'.requests = c.requests := by rw [Cache.requests, Cache.requests, same]
  rw [operations, enters.requests, List.filterMap_append, requests_eq, Phase.operates?]
  congr 1
  cases q.request? with
  | none => simp
  | some r =>
    by_cases hij : i = j
    · cases hr : r.operates? <;> simp [hij, hr]
    · simp [hij]

/-- The client is asked for an operation exactly as a task enters a phase in which it runs. -/
theorem operations_of_move (move : c.move m = some d) :
    d.operations j = c.operations j ++ ((Transition.mk c m d).trials j).filterMap Trial.lease? := by
  rw [Transition.leases_eq]
  have enter : ∀ {c' : Cache κ α} {i : Nat} {p q : Phase κ α} {l : Option Lock}, c'.Enters i q d →
      c'.events = c.events → c'.tasks = c.tasks → c.tasks[i]? = some ⟨p, l⟩ → m.worker? = some i →
      d.operations j = c.operations j ++ (((Transition.mk c m d).entered? j).bind Phase.operates?).toList :=
    fun {c' i p q l} enters he ht task worker => by
      rw [enters.operations_eq he]
      split
      · rename_i same
        subst same
        rw [Transition.entered?_of_enters worker enters ht task]
        rfl
      · rename_i other
        rw [Transition.entered?_of_other (by simpa [worker] using other)]
        · rfl
        · rw [enters.tasks, ht, List.length_set]
          exact Nat.lt_or_ge _ _
  have effect := effect_of_move move
  cases effect with
  | @start call =>
    have unasked : (Phase.ofCall call : Phase κ α).operates? = none := by cases call <;> rfl
    rcases Nat.lt_trichotomy j c.tasks.length with older | rfl | unborn
    · rw [Transition.entered?_of_other (by simp [Move.worker?]) (Or.inl older)]
      exact (List.append_nil _).symm
    · rw [Transition.entered?_of_start, Option.bind_some, unasked]
      exact (List.append_nil _).symm
    · have absent : (c.start call).tasks.length ≤ j := by simpa [Cache.start] using Nat.succ_le_of_lt unborn
      rw [Transition.entered?_of_other (by simp [Move.worker?]) (Or.inr absent)]
      exact (List.append_nil _).symm
  | lock task =>
    rw [Transition.entered?_of_lock task]
    simp [operations, requests]
  | pass task worker enters => exact enter enters rfl rfl task worker
  | leave task worker enters => exact enter enters rfl rfl task worker
  | queue task enters => exact enter enters rfl rfl task rfl
  | dial task _ _ enters => exact enter enters rfl rfl task rfl
  | dialed task enters => exact enter enters rfl rfl task rfl
  | insert task _ enters => exact enter enters rfl rfl task rfl
  | remove task _ _ _ enters => exact enter enters rfl rfl task rfl
  | drain task _ enters => exact enter enters rfl rfl task rfl
  | closed task enters => exact enter enters rfl rfl task rfl
  | drop task enters =>
    rw [enters.operations_eq rfl, Transition.entered?_of_other (by simp [Move.worker?])]
    · split <;> rfl
    · rw [enters.tasks, List.length_set]
      exact Nat.lt_or_ge _ _

end Cache

theorem Run.operations_eq (new : Cache.ofOptions backend options order = .ok c₀) (run : Run c₀ h c) (i : Nat) :
    c.operations i = (h.trials i).filterMap Trial.lease? := by
  induction run with
  | nil =>
    rw [Cache.ofOptions_eq_ok new]
    rfl
  | snoc _ move ih =>
    rw [History.trials_snoc, List.filterMap_append, ← ih]
    exact Cache.operations_of_move move

/-! ### One more attempt -/

/-- How a call that runs an operation goes. -/
structure Retried (h : History κ α) (c : Cache κ α) (i : Nat) : Prop where
  /-- The client is asked to run the operation on the leases of the attempts. -/
  operations : c.operations i = (h.trials i).filterMap Trial.lease?
  twice : (c.operations i).length ≤ 2
  /-- So far as it has come, the call has gone through one attempt, or a failed one and one more. -/
  begun : ∃ rest r, Tried (h.trials i ++ rest) r
  /-- Its answer is the result of its last attempt. -/
  answered : ∀ a, c.answer? i = some a → ∃ r, a = .ran r ∧ Tried (h.trials i) r
  /-- Unless it is given up, it has an answer once the client owes none and no task can go on. -/
  returns : (∀ m, m.worker?.isSome → c.move m = none) → (∀ x ∈ h, x.move.dropped? ≠ some i) →
    ∃ a, c.answer? i = some a
  /-- An operation that takes too long ends its attempt, in an error that says so. -/
  overrun : ∀ x ∈ h, ∀ l, x.exchange? i = some (.operate l, .overdue) →
    ∃ text, x.result? i = some (.error (.timeout text))
  /-- So does a dial, in an error of dialing. -/
  overdue : ∀ x ∈ h, ∀ config pool, x.exchange? i = some (.dial config pool, .overdue) →
    ∃ kind text, x.result? i = some (.error (.dial kind text none))

theorem Attempt.leases (a : Attempt α) : a.trials.filterMap Trial.lease? = a.lease?.toList := by
  obtain ⟨l?, r⟩ := a
  cases l? <;> rfl

theorem Tried.leases {ts : List (Trial α)} {r : Except Error α} (tried : Tried ts r) :
    (ts.filterMap Trial.lease?).length ≤ 2 := by
  have one : ∀ l? : Option Lease, l?.toList.length ≤ 1 := fun l? => by cases l? <;> simp
  cases tried with
  | @once a =>
    rw [a.leases]
    exact Nat.le_succ_of_le (one _)
  | @again a b =>
    rw [List.filterMap_append, a.leases, b.leases, List.length_append]
    exact Nat.add_le_add (one _) (one _)

theorem Call.Acquires.of_withConnection {config : κ} {target : Target κ} {why : Purpose κ}
    (acquires : (Call.withConnection config).Acquires target why) : ∃ again, why = .attempt again := by
  cases why with
  | caller =>
    obtain ⟨_, same, -⟩ := acquires
    cases same
  | attempt again => exact ⟨again, rfl⟩
  | replace => cases acquires

/-- However calls run side by side, an operation is tried once, or once more if the connection failed the
    first time; then on a newer lease, if on any. -/
theorem Run.retried (new : Cache.ofOptions backend options order = .ok c₀) (run : Run c₀ h c) {config : κ}
    (hcall : h.calls[i]? = some (.withConnection config)) : Retried h c i := by
  have admitted := run.admitted new
  obtain ⟨hi, -⟩ := List.getElem?_eq_some_iff.mp hcall
  have hp := Cache.phase?_of_task (List.getElem?_eq_getElem (admitted.length.symm ▸ hi))
  have tries := run.underway new i _ hp
  obtain ⟨rest, r, tried⟩ := tries.completes
  refine ⟨run.operations_eq new i, ?_, ⟨rest, r, tried⟩, fun a answer => ?_, fun stuck undropped => ?_,
    fun x hx l asked => ?_, fun x hx config' pool asked => ?_⟩
  · have bound := tried.leases
    rw [List.filterMap_append, List.length_append] at bound
    rw [run.operations_eq new]
    omega
  · have answered := Cache.answer?_eq_some.mp answer
    have answers := admitted.admits i _ _ hcall answered
    have ended := run.underway new i _ answered
    obtain ⟨r, rfl⟩ := answers.ran
    exact ⟨r, rfl, ended⟩
  · exact run.answered_of_over new undropped hp (run.over_of_stuck new stuck i _ hp)
  · obtain ⟨hm, request⟩ := Transition.exchange?_eq_some asked
    obtain ⟨p, hp, hr⟩ := Cache.request?_eq_some.mp request
    obtain ⟨target, again, rfl⟩ := Phase.operating_of_request? hr
    have ends : x.result? i = some (.error x.before.operationOverdue) := by
      simp [Transition.result?, hm, hp, Phase.result?]
    exact ⟨_, ends⟩
  · obtain ⟨hm, request⟩ := Transition.exchange?_eq_some asked
    obtain ⟨p, hp, hr⟩ := Cache.request?_eq_some.mp request
    have admits := run.admits_before new hx hcall hp
    cases p with
    | dialing target why =>
      obtain ⟨again, rfl⟩ := Call.Acquires.of_withConnection admits
      have ends : x.result? i = some (.error (x.before.asDialError x.before.dialOverdue)) := by
        simp [Transition.result?, hm, hp, Phase.result?]
      exact ⟨_, _, ends⟩
    | _ => cases hr

/-- While an operation runs, a second caller invalidates its target and a third dials it anew; then the
    operation fails. -/
def Site.contended : List (Move Site Nat) :=
  [.start (.withConnection ⟨7, .default⟩), .step 0, .step 0, .step 0, .step 0, .step 0, .step 0,
   .reply 0 .success, .step 0, .step 0,
   .start (.invalidate ⟨[7]⟩), .step 1, .step 1, .reply 1 .success,
   .start (.acquire ⟨7, .default⟩), .step 2, .step 2, .step 2, .step 2, .step 2, .step 2,
   .reply 2 .success, .step 2, .step 2,
   .reply 0 (.failure (.operation "broken pipe" none)), .step 0, .step 0, .step 0, .step 0,
   .reply 0 (.value 5)]

/-- It is tried once more, on the handle of the third caller. -/
theorem Site.contended_operation_retried :
    Cache.ofOptions .keyValue .default .ofInsertion = .ok Site.cache ∧
    Run Site.cache (Site.replay Site.contended).1 (Site.replay Site.contended).2 ∧
    (Site.replay Site.contended).1.calls[0]? = some (.withConnection ⟨7, .default⟩) ∧
    Retried (Site.replay Site.contended).1 (Site.replay Site.contended).2 0 ∧
    History.trials 0 (Site.replay Site.contended).1 =
      [.begun, .operated ⟨1, ⟨[7]⟩, 1⟩, .ended (.error (.operation "broken pipe" none)),
       .begun, .operated ⟨2, ⟨[7]⟩, 2⟩, .ended (.ok 5)] ∧
    ∃ r, CallAnswer.ran (.ok 5) = (.ran r : CallAnswer Nat) ∧
      Tried (History.trials 0 (Site.replay Site.contended).1) r := by
  have run := Site.run Site.contended rfl
  have retried : Retried _ _ 0 := Run.retried Site.new run rfl
  exact ⟨Site.new, run, rfl, retried, rfl, retried.answered _ rfl⟩

end StoreAccess
