import StoreAccess.Proofs.Cache.Calls

/-! No deadlock. Who holds a lock can go on, and so can the first at a gate once no lock is in the way;
    hence some task can always go on unless all wait for the client, and when none can, all calls are over. -/

namespace StoreAccess

variable {κ α : Type} [BackendConfig κ]

namespace Cache

/-! ### Locks and gates -/

/-- A task holds no lock but that of its phase, and stands at a gate exactly in the phases at a gate. -/
structure Orderly (c : Cache κ α) : Prop where
  locks : ∀ (i : Nat) (p : Phase κ α) (l : Lock), c.tasks[i]? = some ⟨p, some l⟩ → p.lock? = some l
  waiting : ∀ (i : Nat) (p : Phase κ α) (f : Fingerprint), c.phase? i = some p → p.gate? = some f →
    (f, i) ∈ c.gates
  placed : ∀ (f : Fingerprint) (i : Nat), (f, i) ∈ c.gates →
    ∃ p, c.phase? i = some p ∧ p.gate? = some f

namespace Orderly

variable {c c' d : Cache κ α} {i : Nat} {m : Move κ α}

theorem enter (o : Orderly c) {p q : Phase κ α} {l : Option Lock} (h : c'.Enters i q d)
    (htasks : c'.tasks = c.tasks) (task : c.tasks[i]? = some ⟨p, l⟩)
    (others : ∀ f j, j ≠ i → ((f, j) ∈ c'.gates ↔ (f, j) ∈ c.gates))
    (own : ∀ f, (f, i) ∈ c'.gates ↔ q.gate? = some f) : Orderly d where
  locks j p' l' hj := by
    rcases h.task_cases htasks hj with ⟨-, hj⟩ | ⟨-, hj⟩
    · cases hj
    · exact o.locks j p' l' hj
  waiting j p' f hp hf := by
    rw [h.gates]
    rcases h.phase_cases htasks hp with ⟨rfl, rfl⟩ | ⟨hne, hp⟩
    · exact (own f).mpr hf
    · exact (others f j hne).mpr (o.waiting j p' f hp hf)
  placed f j hj := by
    rw [h.gates] at hj
    by_cases hne : j = i
    · subst hne
      exact ⟨q, h.phase?_eq htasks task, (own f).mp hj⟩
    · obtain ⟨p', hp, hf⟩ := o.placed f j ((others f j hne).mp hj)
      refine ⟨p', ?_, hf⟩
      rw [← hp]
      simp [phase?, h.tasks, htasks, List.getElem?_set_ne (Ne.symm hne)]

theorem not_placed (o : Orderly c) {p : Phase κ α} {l : Option Lock} (task : c.tasks[i]? = some ⟨p, l⟩)
    (hp : p.gate? = none) (f : Fingerprint) : (f, i) ∉ c.gates := fun hi => by
  obtain ⟨p', hp', hf⟩ := o.placed f i hi
  rw [phase?_of_task task] at hp'
  cases hp'
  rw [hp] at hf
  cases hf

/-- A task that stands at no gate goes on without one. -/
theorem enter_free (o : Orderly c) {p q : Phase κ α} {l : Option Lock} (h : c'.Enters i q d)
    (htasks : c'.tasks = c.tasks) (hgates : c'.gates = c.gates) (task : c.tasks[i]? = some ⟨p, l⟩)
    (hp : p.gate? = none) (hq : q.gate? = none) : Orderly d := by
  refine o.enter h htasks task (fun f j _ => by rw [hgates]) fun f => ?_
  rw [hgates, hq]
  exact ⟨fun hi => absurd hi (o.not_placed task hp f), fun hf => by cases hf⟩

theorem enter_gate (o : Orderly c) {p q : Phase κ α} {l : Option Lock} (h : c'.Enters i q d)
    (htasks : c'.tasks = c.tasks) (hgates : c'.gates = c.gates) (task : c.tasks[i]? = some ⟨p, l⟩)
    (same : q.gate? = p.gate?) : Orderly d := by
  refine o.enter h htasks task (fun f j _ => by rw [hgates]) fun f => ?_
  rw [hgates, same]
  constructor
  · intro hi
    obtain ⟨p', hp', hf⟩ := o.placed f i hi
    rw [phase?_of_task task] at hp'
    cases hp'
    exact hf
  · exact o.waiting i p f (phase?_of_task task)

theorem enter_leave (o : Orderly c) {p q : Phase κ α} {l : Option Lock} (h : c'.Enters i q d)
    (htasks : c'.tasks = c.tasks) (hgates : c'.gates = (c.leave i).gates)
    (task : c.tasks[i]? = some ⟨p, l⟩) (hq : q.gate? = none) : Orderly d := by
  refine o.enter h htasks task (fun f j hne => ?_) fun f => ?_
  · rw [hgates]
    simp [leave, hne]
  · rw [hgates, hq]
    simp [leave]

theorem start (o : Orderly c) (call : Call κ) : Orderly (c.start call) where
  locks j p l hj := by
    rcases start_task_cases hj with hj | ⟨-, hj⟩
    · exact o.locks j p l hj
    · cases hj
  waiting j p f hp hf := by
    rcases start_phase_cases hp with hp | ⟨-, rfl⟩
    · exact o.waiting j p f hp hf
    · rw [(Phase.free_ofCall call).gate] at hf
      cases hf
  placed f j hj := by
    obtain ⟨p, hp, hf⟩ := o.placed f j hj
    obtain ⟨l, task⟩ := phase?_eq_some.mp hp
    obtain ⟨hlt, -⟩ := List.getElem?_eq_some_iff.mp task
    exact ⟨p, phase?_eq_some.mpr ⟨l, by rw [← task]; exact List.getElem?_append_left hlt⟩, hf⟩

theorem lock (o : Orderly c) {p : Phase κ α} {l : Lock} (task : c.tasks[i]? = some ⟨p, none⟩)
    (needs : p.lock? = some l) : Orderly { c with tasks := c.tasks.set i ⟨p, some l⟩ } where
  locks j p' l' hj := by
    rcases set_cases hj with ⟨-, hj⟩ | ⟨-, hj⟩
    · cases hj
      exact needs
    · exact o.locks j p' l' hj
  waiting j p' f hp hf := o.waiting j p' f (lock_phase? task ▸ hp) hf
  placed f j hj := by
    obtain ⟨p', hp, hf⟩ := o.placed f j hj
    exact ⟨p', by rw [lock_phase? task, hp], hf⟩

theorem move (o : Orderly c) (h : c.move m = some d) : Orderly d := by
  have does := does_of_move h
  cases does with
  | start => exact o.start _
  | lock task needs => exact o.lock task needs
  | hit task _ enters => exact o.enter_free enters rfl rfl task rfl (Phase.free_afterLease _ _ _).gate
  | miss task _ enters => exact o.enter_free enters rfl rfl task rfl rfl
  | @queue i target why l _ task enters =>
    refine o.enter enters rfl task (fun f j hne => ?_) fun f => ?_
    · simp [join, hne]
    · have absent := o.not_placed task rfl f
      simp [join, absent, Phase.gate?, eq_comm]
  | share task _ enters => exact o.enter_leave enters rfl rfl task (Phase.free_afterLease _ _ _).gate
  | reject task _ _ enters => exact o.enter_leave enters rfl rfl task (Phase.free_afterRefusal _ _ _).gate
  | dial task _ _ enters => exact o.enter_gate enters rfl rfl task rfl
  | insert task enters => exact o.enter_leave enters rfl rfl task (Phase.free_afterLease _ _ _).gate
  | remove task _ enters => exact o.enter_free enters rfl rfl task rfl rfl
  | removeNone task _ enters => exact o.enter_free enters rfl rfl task rfl rfl
  | evict task _ _ enters => exact o.enter_free enters rfl rfl task rfl rfl
  | evictNone task _ enters => exact o.enter_free enters rfl rfl task rfl (Phase.owes_afterRemoval _ _).gate
  | drain task _ enters => exact o.enter_free enters rfl rfl task rfl (Phase.owes_toClose _).gate
  | note task _ enters => exact o.enter_free enters rfl rfl task rfl (Phase.free_toPing _ _).gate
  | count task enters => exact o.enter_free enters rfl rfl task rfl rfl
  | contain task enters => exact o.enter_free enters rfl rfl task rfl rfl
  | dialed task enters => exact o.enter_gate enters rfl rfl task rfl
  | undialed task _ enters => exact o.enter_leave enters rfl rfl task (Phase.free_afterRefusal _ _ _).gate
  | operated task enters => exact o.enter_free enters rfl rfl task rfl rfl
  | failed task _ enters => exact o.enter_free enters rfl rfl task rfl (Phase.free_afterOperation _ _ _ _).gate
  | pinged task enters => exact o.enter_free enters rfl rfl task rfl (Phase.free_toPing _ _).gate
  | unpinged task _ enters => exact o.enter_free enters rfl rfl task rfl rfl
  | closed task _ enters => exact o.enter_free enters rfl rfl task rfl (Phase.owes_afterRemoval _ _).gate
  | drop task _ enters => exact o.enter_leave enters rfl rfl task rfl

/-! ### No deadlock -/

theorem work_isSome {p : Phase κ α} {l : Lock} (needs : p.lock? = some l) : (c.work i p).isSome := by
  cases p with
  | dialing | operating | closing | pinging | finished | dropped => cases needs
  | looking =>
    simp only [work]
    split <;> rfl
  | rechecking target why =>
    simp only [work]
    split
    · rfl
    · split <;> rfl
  | removing f =>
    simp only [work]
    split <;> rfl
  | removingLease lease why =>
    simp only [work]
    split
    · split <;> rfl
    · rfl
  | _ => rfl

theorem step_of_locked (o : Orderly c) {p : Phase κ α} {l : Lock} (task : c.tasks[i]? = some ⟨p, some l⟩) :
    (c.step i).isSome := by
  have needs := o.locks i p l task
  simp only [step, task, Option.bind_eq_bind, Option.bind_some, needs]
  exact work_isSome needs

/-- As long as nobody holds a lock, who waits for one can go on, once it is the first at its gate. -/
theorem step_of_unlocked {p : Phase κ α} {l : Lock} (task : c.tasks[i]? = some ⟨p, none⟩)
    (needs : p.lock? = some l) (unlocked : ∀ t ∈ c.tasks, t.lock = none) (first : c.passed i p = true) :
    (c.step i).isSome := by
  have free : c.lockFree l = true := by
    rw [lockFree, List.all_eq_true]
    intro t ht
    simp [unlocked t ht]
  simp [step, task, needs, first, free]

/-- As long as somebody holds a lock, some task can take a step. -/
theorem step_or_unlocked (o : Orderly c) : (∃ j, (c.step j).isSome) ∨ ∀ t ∈ c.tasks, t.lock = none := by
  by_cases locked : ∃ t ∈ c.tasks, t.lock ≠ none
  · obtain ⟨⟨p, lock⟩, ht, hl⟩ := locked
    obtain ⟨j, hj⟩ := List.mem_iff_getElem?.mp ht
    cases lock with
    | none => exact absurd rfl hl
    | some l => exact Or.inl ⟨j, o.step_of_locked hj⟩
  · refine Or.inr fun t ht => ?_
    cases hl : t.lock with
    | none => rfl
    | some l => exact absurd ⟨t, ht, by simp [hl]⟩ locked

/-- Where a task waits at a gate, the first one there has passed it. -/
theorem first_of_waiting (o : Orderly c) {p : Phase κ α} {f : Fingerprint} (hp : c.phase? i = some p)
    (hgate : p.gate? = some f) :
    ∃ j q, c.phase? j = some q ∧ q.gate? = some f ∧ c.first? f = some j := by
  have hmem := o.waiting i p f hp hgate
  cases hfirst : c.gates.find? fun g => g.1 == f with
  | none => exact absurd (List.find?_eq_none.mp hfirst _ hmem) (by simp)
  | some g =>
    obtain ⟨f', j⟩ := g
    have hf : f' = f := by simpa using List.find?_some hfirst
    subst hf
    obtain ⟨q, hq, hgate'⟩ := o.placed f' j (List.mem_of_find?_eq_some hfirst)
    exact ⟨j, q, hq, hgate', by simp [first?, hfirst]⟩

/-- Unless all calls are over, a task waits for the client or can take a step. -/
theorem progress (o : Orderly c) {p : Phase κ α} (hp : c.phase? i = some p) (hover : p.isOver = false) :
    (∃ j r, c.request? j = some r) ∨ ∃ j, (c.step j).isSome := by
  rcases o.step_or_unlocked with able | unlocked
  · exact Or.inr able
  · -- Whoever has passed its gate takes its lock, or waits for the client.
    have go : ∀ {j : Nat} {q : Phase κ α}, c.phase? j = some q → q.isOver = false → c.passed j q = true →
        (∃ j r, c.request? j = some r) ∨ ∃ j, (c.step j).isSome := fun {j q} hq hover hpassed => by
      obtain ⟨lock, task⟩ := phase?_eq_some.mp hq
      have hlock : lock = none := unlocked _ (List.mem_of_getElem? task)
      subst hlock
      cases hneeds : q.lock? with
      | some l => exact Or.inr ⟨j, step_of_unlocked task hneeds unlocked hpassed⟩
      | none =>
        refine Or.inl ⟨j, ?_⟩
        simp only [request?, hq, Option.bind_some]
        cases q with
        | dialing | operating | closing | pinging => exact ⟨_, rfl⟩
        | finished | dropped => cases hover
        | _ => cases hneeds
    cases hgate : p.gate? with
    | none => exact go hp hover (by simp [passed, hgate])
    | some f =>
      obtain ⟨j, q, hq, hgate', hfirst⟩ := o.first_of_waiting hp hgate
      refine go hq ?_ (by simp [passed, hgate', hfirst])
      cases q <;> first | rfl | cases hgate'

end Orderly

theorem move_of_request {c : Cache κ α} {i : Nat} {r : Request κ} (hr : c.request? i = some r) :
    ∃ m, m.worker? = some i ∧ (c.move m).isSome := by
  obtain ⟨p, hp, hr⟩ := Option.bind_eq_some_iff.mp hr
  obtain ⟨l, task⟩ := phase?_eq_some.mp hp
  cases p with
  | dialing | closing | pinging => exact ⟨.reply i .success, rfl, by simp [move, reply, task]⟩
  | operating => exact ⟨.reply i .overdue, rfl, by simp [move, reply, task]⟩
  | _ => cases hr

end Cache

theorem Run.orderly {backend : BackendKind} {options : CacheOptions} {order : EntryOrder} {c₀ c : Cache κ α}
    {h : History κ α} (new : Cache.ofOptions backend options order = .ok c₀) (run : Run c₀ h c) : c.Orderly := by
  refine run.keeps (fun _ _ _ o move => o.move move) ?_
  rw [Cache.ofOptions_eq_ok new]
  refine ⟨fun i p l hi => ?_, fun i p f hp => ?_, fun f i hi => ?_⟩
  · cases hi
  · cases hp
  · cases hi

/-- When no task can go on, whatever the client answers, all calls are over. -/
theorem Run.over_of_stuck {backend : BackendKind} {options : CacheOptions} {order : EntryOrder} {c₀ c : Cache κ α}
    {h : History κ α} (new : Cache.ofOptions backend options order = .ok c₀) (run : Run c₀ h c)
    (stuck : ∀ m, m.worker?.isSome → c.move m = none) (i : Nat) (p : Phase κ α)
    (hp : c.phase? i = some p) : p.isOver = true := by
  cases hover : p.isOver with
  | true => rfl
  | false =>
    exfalso
    rcases (run.orderly new).progress hp hover with ⟨j, r, hr⟩ | ⟨j, hj⟩
    · obtain ⟨m, hm, hmove⟩ := Cache.move_of_request hr
      rw [stuck m (by rw [hm]; rfl)] at hmove
      cases hmove
    · have hmove : (c.move (.step j)).isSome := hj
      rw [stuck (.step j) rfl] at hmove
      cases hmove

/-- A task is given up by nobody but its caller. -/
theorem Cache.dropped_of_move {c d : Cache κ α} {m : Move κ α} {j : Nat} (move : c.move m = some d)
    (hj : d.phase? j = some .dropped) : c.phase? j = some .dropped ∨ m = .drop j := by
  have pass : ∀ {c' : Cache κ α} {i : Nat} {q : Phase κ α}, c'.Enters i q d → c'.tasks = c.tasks →
      q.isDropped = false → c.phase? j = some .dropped ∨ m = .drop j := fun enters ht hq => by
    rcases enters.phase_cases ht hj with ⟨-, rfl⟩ | ⟨-, hj⟩
    · cases hq
    · exact Or.inl hj
  have effect := effect_of_move move
  cases effect with
  | @start call =>
    rcases start_phase_cases hj with hj | ⟨-, hcall⟩
    · exact Or.inl hj
    · cases call <;> cases hcall
  | lock task => exact Or.inl (lock_phase? task ▸ hj)
  | pass _ _ enters _ _ there => exact pass enters rfl there.alive
  | leave _ _ enters _ _ there => exact pass enters rfl there.alive
  | insert _ there enters => exact pass enters rfl there.alive
  | queue _ enters => exact pass enters rfl rfl
  | dial _ _ _ enters => exact pass enters rfl rfl
  | dialed _ enters => exact pass enters rfl rfl
  | remove _ _ _ _ enters => exact pass enters rfl rfl
  | drain _ _ enters => exact pass enters rfl (Phase.owes_toClose _).alive
  | closed _ enters => exact pass enters rfl (Phase.owes_afterRemoval _ _).alive
  | drop _ enters =>
    rcases enters.phase_cases (c := c) rfl hj with ⟨rfl, -⟩ | ⟨-, hj⟩
    · exact Or.inr rfl
    · exact Or.inl hj

/-- A call that is over and was not given up has its answer. -/
theorem Run.answered_of_over {backend : BackendKind} {options : CacheOptions} {order : EntryOrder} {c₀ c : Cache κ α}
    {h : History κ α} (new : Cache.ofOptions backend options order = .ok c₀) (run : Run c₀ h c)
    {i : Nat} (undropped : ∀ x ∈ h, x.move.dropped? ≠ some i) {p : Phase κ α}
    (hp : c.phase? i = some p) (ended : p.isOver = true) : ∃ a, c.answer? i = some a := by
  cases p with
  | finished a =>
    obtain ⟨l, task⟩ := Cache.phase?_eq_some.mp hp
    exact ⟨a, by simp [Cache.answer?, task, Phase.answer?]⟩
  | dropped =>
    exfalso
    induction run with
    | nil =>
      rw [Cache.ofOptions_eq_ok new] at hp
      cases hp
    | snoc run move ih =>
      rcases Cache.dropped_of_move move hp with hp | rfl
      · exact ih (fun x hx => undropped x (List.mem_append_left _ hx)) hp
      · exact undropped _ (List.mem_append_right _ (List.mem_singleton_self _)) rfl
  | _ => cases ended

end StoreAccess
