import StoreAccess.Proofs.Cache.Ledger
import StoreAccess.Proofs.Cache.Termination

/-! What a task that waits for the client keeps others from. Who dials a target keeps the gate of this
    target, and who waits for anything else keeps nothing. So while nobody waits for the client some task
    can take a step, and an acquisition needs no more of the client than answers to dials of its own
    target, however long all its other requests take. -/

namespace StoreAccess

variable {κ α : Type} [BackendConfig κ] {backend : BackendKind} {options : CacheOptions} {order : EntryOrder}
  {c₀ c d : Cache κ α} {h : History κ α} {i j : Nat} {m : Move κ α} {f : Fingerprint} {p : Phase κ α}

/-! ### Other tasks -/

namespace Cache

/-- A move leaves all tasks where they are but the one that goes on or is given up. -/
theorem phase?_of_other (move : c.move m = some d) (hp : c.phase? j = some p)
    (idle : m.worker? ≠ some j) (kept : m.dropped? ≠ some j) : d.phase? j = some p := by
  have pass : ∀ {c' : Cache κ α} {i : Nat} {q : Phase κ α}, c'.Enters i q d → c'.tasks = c.tasks →
      i ≠ j → d.phase? j = some p := fun enters ht hij => by
    rw [← hp]
    simp [phase?, enters.tasks, ht, List.getElem?_set_ne hij]
  have worker : ∀ {i : Nat}, m.worker? = some i → i ≠ j := by
    rintro i hm rfl
    exact idle hm
  have effect := effect_of_move move
  cases effect with
  | start =>
    obtain ⟨l, task⟩ := phase?_eq_some.mp hp
    obtain ⟨hlt, -⟩ := List.getElem?_eq_some_iff.mp task
    exact phase?_eq_some.mpr ⟨l, by rw [← task]; exact List.getElem?_append_left hlt⟩
  | lock task => rw [lock_phase? task, hp]
  | pass _ hm enters => exact pass enters rfl (worker hm)
  | leave _ hm enters => exact pass enters rfl (worker hm)
  | queue _ enters => exact pass enters rfl (worker rfl)
  | dial _ _ _ enters => exact pass enters rfl (worker rfl)
  | dialed _ enters => exact pass enters rfl (worker rfl)
  | insert _ _ enters => exact pass enters rfl (worker rfl)
  | remove _ _ _ _ enters => exact pass enters rfl (worker rfl)
  | drain _ _ enters => exact pass enters rfl (worker rfl)
  | closed _ enters => exact pass enters rfl (worker rfl)
  | drop _ enters =>
    refine pass enters rfl ?_
    rintro rfl
    exact kept rfl

end Cache

/-! ### What a waiting task holds -/

namespace Phase

theorem lock?_of_request? {r : Request κ} (hr : p.request? = some r) : p.lock? = none := by
  cases p <;> first | rfl | cases hr

theorem gate?_of_request? {r : Request κ} (hr : p.request? = some r) :
    p.gate? = some f ↔ ∃ config pool, r = .dial config pool ∧ f = BackendConfig.fingerprint config := by
  cases p with
  | dialing target why =>
    cases hr
    simp [gate?, ← target.fingerprint_eq, eq_comm]
  | operating | closing | pinging =>
    cases hr
    simp [gate?]
  | _ => cases hr

end Phase

namespace Cache

theorem request?_eq_some {r : Request κ} :
    c.request? i = some r ↔ ∃ p, c.phase? i = some p ∧ p.request? = some r := Option.bind_eq_some_iff

theorem step_of_request? {r : Request κ} (hr : c.request? i = some r) : c.step i = none := by
  obtain ⟨p, hp, hr⟩ := request?_eq_some.mp hr
  obtain ⟨l, task⟩ := phase?_eq_some.mp hp
  simp only [step, task, Option.bind_eq_bind, Option.bind_some, Phase.lock?_of_request? hr]

theorem mem_gates_of_first? (h : c.first? f = some i) : (f, i) ∈ c.gates := by
  simp only [first?, Option.map_eq_some_iff] at h
  obtain ⟨⟨f', j⟩, hp, rfl⟩ := h
  have hf : f' = f := by simpa using List.find?_some hp
  exact hf ▸ List.mem_of_find?_eq_some hp

namespace Orderly

theorem lock_of_request? (o : Orderly c) {r : Request κ} {t : Task κ α} (hr : c.request? i = some r)
    (task : c.tasks[i]? = some t) : t.lock = none := by
  obtain ⟨p, hp, hr⟩ := request?_eq_some.mp hr
  obtain ⟨q, lock⟩ := t
  have same : q = p := Option.some.inj ((phase?_of_task task).symm.trans hp)
  subst same
  cases lock with
  | none => rfl
  | some l =>
    have needs := o.locks i q l task
    rw [Phase.lock?_of_request? hr] at needs
    cases needs

theorem gates_of_request? (o : Orderly c) {r : Request κ} (hr : c.request? i = some r) :
    (f, i) ∈ c.gates ↔ ∃ config pool, r = .dial config pool ∧ f = BackendConfig.fingerprint config := by
  obtain ⟨p, hp, hr⟩ := request?_eq_some.mp hr
  rw [← Phase.gate?_of_request? hr]
  constructor
  · intro hi
    obtain ⟨q, hq, hf⟩ := o.placed f i hi
    rw [hp] at hq
    cases hq
    exact hf
  · exact o.waiting i p f hp

theorem first?_of_dial (o : Orderly c) (g : Gated c) {config : κ} {pool : PoolSettings}
    (hr : c.request? i = some (.dial config pool)) :
    c.first? f = some i ↔ f = BackendConfig.fingerprint config := by
  constructor
  · intro hfirst
    obtain ⟨_, _, same, hf⟩ := (o.gates_of_request? hr).mp (mem_gates_of_first? hfirst)
    cases same
    exact hf
  · rintro rfl
    obtain ⟨p, hp, hr⟩ := request?_eq_some.mp hr
    obtain ⟨l, task⟩ := phase?_eq_some.mp hp
    cases p with
    | dialing target why =>
      cases hr
      rw [← target.fingerprint_eq]
      exact g.first i _ _ task rfl (Or.inr rfl)
    | _ => cases hr

/-- Whoever holds a lock can do its work and gives the lock back. -/
theorem release (o : Orderly c) {l : Lock} (task : c.tasks[i]? = some ⟨p, some l⟩) :
    ∃ d q, c.step i = some d ∧ d.tasks[i]? = some ⟨q, none⟩ := by
  obtain ⟨d, step⟩ := Option.isSome_iff_exists.mp (o.step_of_locked task)
  obtain ⟨hi, -⟩ := List.getElem?_eq_some_iff.mp task
  have pass : ∀ {c' : Cache κ α} {q : Phase κ α}, c'.Enters i q d → c'.tasks = c.tasks →
      ∃ d q, c.step i = some d ∧ d.tasks[i]? = some ⟨q, none⟩ := fun {c' q} enters ht =>
    ⟨d, q, step, by simp [enters.tasks, ht, hi]⟩
  have effect := effect_of_move (m := .step i) step
  cases effect with
  | lock unlocked =>
    rw [task] at unlocked
    cases unlocked
  | pass _ hm enters =>
    cases hm
    exact pass enters rfl
  | leave _ hm enters =>
    cases hm
    exact pass enters rfl
  | queue _ enters => exact pass enters rfl
  | dial _ _ _ enters => exact pass enters rfl
  | insert _ _ enters => exact pass enters rfl
  | remove _ _ _ _ enters => exact pass enters rfl
  | drain _ _ enters => exact pass enters rfl

end Orderly

end Cache

/-! ### Acquisitions -/

/-- The fingerprint of which the task is to get a lease. -/
def Phase.acquires? : Phase κ α → Option Fingerprint
  | looking target _ | queueing target _ | rechecking target _ | dialing target _ =>
    some target.fingerprint
  | inserting e _ => some e.target.fingerprint
  | _ => none

theorem Phase.acquires?_of_gate? (hf : p.gate? = some f) : p.acquires? = some f := by
  cases p <;> first | exact hf | cases hf

/-- Until an acquisition is over it is about the fingerprint of its own configuration. -/
theorem Call.Admits.acquires? {config : κ} (admits : (Call.acquire config).Admits p) :
    p.acquires? = some (BackendConfig.fingerprint config) ∨ p.isOver = true := by
  have own : ∀ {target : Target κ} {why : Purpose κ}, (Call.acquire config).Acquires target why →
      target.fingerprint = BackendConfig.fingerprint config := fun {target why} acquires => by
    cases why with
    | caller =>
      obtain ⟨_, same, rfl⟩ := acquires
      cases same
      rfl
    | attempt =>
      obtain ⟨_, same, -⟩ := acquires
      cases same
    | replace => cases acquires
  cases p with
  | looking | queueing | rechecking | dialing | inserting => exact Or.inl (congrArg some (own admits))
  | finished | dropped => exact Or.inr rfl
  | operating =>
    obtain ⟨⟨_, same, -⟩, -⟩ := admits
    cases same
  | removingLease _ why | closing _ why =>
    cases why <;> simp [Call.Admits, Call.Evicts, Call.Removes] at admits
  | _ => cases admits

namespace Cache

/-- The moves that an acquisition of a fingerprint depends on: the steps of all tasks, and what the client
    answers to dials of this fingerprint. -/
inductive Serves (c : Cache κ α) (f : Fingerprint) : Move κ α → Prop
  | step {i : Nat} : Serves c f (.step i)
  | dialed {i : Nat} {config : κ} {pool : PoolSettings} {r : Reply α}
      (asked : c.request? i = some (.dial config pool)) (same : BackendConfig.fingerprint config = f) :
      Serves c f (.reply i r)

theorem Serves.worker?_isSome (serves : c.Serves f m) : m.worker?.isSome := by cases serves <;> rfl

theorem Serves.dropped?_eq_none (serves : c.Serves f m) : m.dropped? = none := by cases serves <;> rfl

/-- An acquisition never waits for anything but the dials of its fingerprint. -/
theorem Orderly.served (o : Orderly c) (hp : c.phase? i = some p) (acquires : p.acquires? = some f) :
    ∃ m d, c.Serves f m ∧ c.move m = some d := by
  rcases o.step_or_unlocked with ⟨j, hj⟩ | unlocked
  · obtain ⟨d, step⟩ := Option.isSome_iff_exists.mp hj
    exact ⟨.step j, d, .step, step⟩
  · -- Whoever has passed the gate takes its lock, or waits for a dial of the fingerprint.
    have go : ∀ {j : Nat} {q : Phase κ α}, c.phase? j = some q → q.acquires? = some f →
        c.passed j q = true → ∃ m d, c.Serves f m ∧ c.move m = some d := fun {j q} hq acquires passed => by
      obtain ⟨lock, task⟩ := phase?_eq_some.mp hq
      have hlock : lock = none := unlocked _ (List.mem_of_getElem? task)
      subst hlock
      cases needs : q.lock? with
      | some l =>
        obtain ⟨d, step⟩ := Option.isSome_iff_exists.mp (step_of_unlocked task needs unlocked passed)
        exact ⟨.step j, d, .step, step⟩
      | none =>
        cases q with
        | dialing target why =>
          have asked : c.request? j = some (.dial target.config target.pool) :=
            request?_eq_some.mpr ⟨_, hq, rfl⟩
          have same : BackendConfig.fingerprint target.config = f :=
            target.fingerprint_eq.symm.trans (Option.some.inj acquires)
          have able : (c.move (.reply j .success)).isSome := by simp [Cache.move, reply, task]
          obtain ⟨d, reply⟩ := Option.isSome_iff_exists.mp able
          exact ⟨.reply j .success, d, .dialed asked same, reply⟩
        | looking | queueing | rechecking | inserting => cases needs
        | _ => cases acquires
    cases hgate : p.gate? with
    | none => exact go hp acquires (by simp [passed, hgate])
    | some f' =>
      have same := Phase.acquires?_of_gate? hgate
      rw [acquires] at same
      cases same
      obtain ⟨j, q, hq, hgate', hfirst⟩ := o.first_of_waiting hp hgate
      exact go hq (Phase.acquires?_of_gate? hgate') (by simp [passed, hgate', hfirst])

/-- No other request comes to its end by such moves. -/
theorem Serves.request?_eq (serves : c.Serves f m) (move : c.move m = some d) {r : Request κ}
    (asked : c.request? j = some r)
    (other : ∀ config pool, r = .dial config pool → BackendConfig.fingerprint config ≠ f) :
    d.request? j = some r := by
  have idle : m.worker? ≠ some j := fun worker => by
    cases serves with
    | step =>
      cases worker
      rw [Cache.move, step_of_request? asked] at move
      cases move
    | @dialed i config pool _ asked' same =>
      cases worker
      rw [asked'] at asked
      cases asked
      exact other config pool rfl same
  obtain ⟨p, hp, hr⟩ := request?_eq_some.mp asked
  exact request?_eq_some.mpr
    ⟨p, phase?_of_other move hp idle (by rw [serves.dropped?_eq_none]; simp), hr⟩

end Cache

/-- From every state an acquisition comes to its answer by steps of tasks and answers to dials of its own
    fingerprint; all other requests may stay unanswered. -/
theorem Run.acquire_ends (new : Cache.ofOptions backend options order = .ok c₀) (run : Run c₀ h c) {config : κ}
    (hcall : h.calls[i]? = some (.acquire config)) (undropped : ∀ x ∈ h, x.move.dropped? ≠ some i) :
    ∃ h' d a, Run c h' d ∧ (∀ x ∈ h', x.before.Serves (BackendConfig.fingerprint config) x.move) ∧
      d.answer? i = some a ∧
      ∀ j r, c.request? j = some r →
        (∀ config' pool, r = .dial config' pool →
          BackendConfig.fingerprint config' ≠ BackendConfig.fingerprint config) →
        d.request? j = some r := by
  -- Induction on what is left to do, which every move of a task lowers.
  induction c using Cache.less_wf.induction generalizing h with
  | h c ih =>
    have admitted := run.admitted new
    obtain ⟨hlt, -⟩ := List.getElem?_eq_some_iff.mp hcall
    have hp := Cache.phase?_of_task (List.getElem?_eq_getElem (admitted.length.symm ▸ hlt))
    rcases (admitted.admits i _ _ hcall hp).acquires? with acquires | ended
    · obtain ⟨m, d, serves, move⟩ := (run.orderly new).served hp acquires
      have hcall' : (History.calls (h ++ [⟨c, m, d⟩]))[i]? = some (.acquire config) := by
        rw [History.calls_append, List.getElem?_append_left hlt, hcall]
      have undropped' : ∀ x ∈ h ++ [⟨c, m, d⟩], x.move.dropped? ≠ some i := fun x hx => by
        rcases List.mem_append.mp hx with hx | hx
        · exact undropped x hx
        · rw [List.mem_singleton.mp hx, serves.dropped?_eq_none]
          simp
      obtain ⟨h', d', a, rest, serving, answer, waiting⟩ :=
        ih d (Cache.less_of_move move serves.worker?_isSome) (run.snoc move) hcall' undropped'
      refine ⟨⟨c, m, d⟩ :: h', d', a, rest.cons move, fun x hx => ?_, answer, fun j r asked other => ?_⟩
      · rcases List.mem_cons.mp hx with rfl | hx
        · exact serves
        · exact serving x hx
      · exact waiting j r (serves.request?_eq move asked other) other
    · obtain ⟨a, answer⟩ := run.answered_of_over new undropped hp ended
      exact ⟨[], c, a, .nil, fun x hx => (by cases hx), answer, fun j r asked _ => asked⟩

/-! ### Locks and waiting -/

structure Unblocked (h : History κ α) (c : Cache κ α) : Prop where
  /-- Whoever waits for the client holds neither the lock on the entries nor that on the gates. -/
  unlocked : ∀ i r t, c.request? i = some r → c.tasks[i]? = some t → t.lock = none
  /-- Who dials a target has passed its gate and stands at no other. -/
  dialing : ∀ i config pool, c.request? i = some (.dial config pool) → ∀ f,
    (c.first? f = some i ↔ f = BackendConfig.fingerprint config) ∧
      ((f, i) ∈ c.gates ↔ f = BackendConfig.fingerprint config)
  /-- Who waits for the client to close a handle, to probe one or to run an operation stands at no gate. -/
  gateless : ∀ i r, c.request? i = some r → (∀ config pool, r ≠ .dial config pool) → ∀ f, (f, i) ∉ c.gates
  /-- Whoever holds a lock can take a step, by which it gives the lock back. -/
  released : ∀ i p l, c.tasks[i]? = some ⟨p, some l⟩ →
    ∃ d q, c.step i = some d ∧ d.tasks[i]? = some ⟨q, none⟩
  /-- While no lock is held, whoever needs one and has passed its gate can take it: which of them is let
      in first does not matter. -/
  granted : (∀ t ∈ c.tasks, t.lock = none) → ∀ i p l, c.tasks[i]? = some ⟨p, none⟩ →
    p.lock? = some l → c.passed i p = true → (c.step i).isSome
  /-- While a call is not over and nobody waits for the client, some task can take a step. -/
  progress : ∀ i p, c.phase? i = some p → p.isOver = false → (∀ j, c.request? j = none) →
    ∃ j, (c.step j).isSome
  /-- An acquisition comes to its answer while all other requests wait, dials of other fingerprints
      included. -/
  independent : ∀ i config, h.calls[i]? = some (.acquire config) → (∀ x ∈ h, x.move.dropped? ≠ some i) →
    ∃ h' d a, Run c h' d ∧ (∀ x ∈ h', x.before.Serves (BackendConfig.fingerprint config) x.move) ∧
      d.answer? i = some a ∧
      ∀ j r, c.request? j = some r →
        (∀ config' pool, r = .dial config' pool →
          BackendConfig.fingerprint config' ≠ BackendConfig.fingerprint config) →
        d.request? j = some r

/-- In every state that calls can reach which run side by side, no lock is held across a request to the
    client, and no gate but that of a target across its dial. So there is no deadlock, and a dial that
    stalls holds up no acquisition of another fingerprint. -/
theorem Run.unblocked (new : Cache.ofOptions backend options order = .ok c₀) (run : Run c₀ h c) :
    Unblocked h c := by
  have o := run.orderly new
  have g := (run.ledger new).gated
  refine ⟨fun i r t asked task => o.lock_of_request? asked task, fun i config pool asked f => ?_,
    fun i r asked undialed f standing => ?_, fun i p l task => o.release task,
    fun unlocked i p l task needs passed => Cache.Orderly.step_of_unlocked task needs unlocked passed,
    fun i p hp ended idle => ?_, fun i config hcall undropped => run.acquire_ends new hcall undropped⟩
  · refine ⟨o.first?_of_dial g asked, (o.gates_of_request? asked).trans ?_⟩
    constructor
    · rintro ⟨_, _, same, hf⟩
      cases same
      exact hf
    · exact fun hf => ⟨config, pool, rfl, hf⟩
  · obtain ⟨config, pool, dial, -⟩ := (o.gates_of_request? asked).mp standing
    exact undialed config pool dial
  · rcases o.progress hp ended with ⟨j, r, asked⟩ | able
    · rw [idle j] at asked
      cases asked
    · exact able

/-- The dial of one site stalls, a second caller waits at its gate, and a third is about to look for
    another site. -/
def Site.stalled : List (Move Site Nat) :=
  [.start (.acquire ⟨7, .default⟩), .start (.acquire ⟨7, .default⟩),
   .step 0, .step 0, .step 1, .step 1, .step 0, .step 0, .step 1, .step 1, .step 0, .step 0,
   .start (.acquire ⟨8, .default⟩), .step 2]

theorem Site.stalled_dial_unblocked :
    Cache.ofOptions .keyValue .default .ofInsertion = .ok Site.cache ∧
    Run Site.cache (Site.replay Site.stalled).1 (Site.replay Site.stalled).2 ∧
    Unblocked (Site.replay Site.stalled).1 (Site.replay Site.stalled).2 ∧
    Cache.request? (Site.replay Site.stalled).2 0 = some (.dial ⟨7, .default⟩ .default) ∧
    ∃ h' d a, Run (Site.replay Site.stalled).2 h' d ∧ (∀ x ∈ h', x.before.Serves ⟨[8]⟩ x.move) ∧
      d.answer? 2 = some a ∧ d.request? 0 = some (.dial ⟨7, .default⟩ .default) := by
  have run := Site.run Site.stalled rfl
  have unblocked := Run.unblocked Site.new run
  have undropped : ∀ x ∈ (Site.replay Site.stalled).1, x.move.dropped? ≠ some 2 := by decide
  obtain ⟨h', d, a, rest, serving, answer, waiting⟩ := unblocked.independent 2 ⟨8, .default⟩ rfl undropped
  refine ⟨Site.new, run, unblocked, rfl, h', d, a, rest, serving, answer, waiting 0 _ rfl ?_⟩
  rintro config pool same
  cases same
  decide

end StoreAccess
