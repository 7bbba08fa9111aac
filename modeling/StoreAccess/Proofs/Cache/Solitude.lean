import StoreAccess.Cache.Timeline
import StoreAccess.Proofs.Cache.Stalls

/-! One task alone. When all other tasks are over, nobody keeps this one from its locks and gates: it can take its
    next step or waits for the client, and so it comes to its end in a bounded number of moves. -/

namespace StoreAccess

variable {κ α : Type} [BackendConfig κ] {c d : Cache κ α} {i j : Nat} {m : Move κ α} {p q : Phase κ α}
  {t : Task κ α}

/-! ### What a task changes -/

namespace Cache

/-- Who goes on changes its own task only. -/
theorem tasks_of_work (move : c.move m = some d) (worker : m.worker? = some i) :
    ∃ t, d.tasks = c.tasks.set i t := by
  have pass : ∀ {c' : Cache κ α} {j : Nat} {q : Phase κ α}, c'.Enters j q d → c'.tasks = c.tasks →
      m.worker? = some j → ∃ t, d.tasks = c.tasks.set i t := fun {c' j q} enters same hm => by
    have own : j = i := Option.some.inj (hm.symm.trans worker)
    exact ⟨⟨q, none⟩, by rw [enters.tasks, same, own]⟩
  have effect := effect_of_move move
  cases effect with
  | start | drop => cases worker
  | lock =>
    cases worker
    exact ⟨_, rfl⟩
  | pass _ hm enters => exact pass enters rfl hm
  | leave _ hm enters => exact pass enters rfl hm
  | queue _ enters => exact pass enters rfl rfl
  | dial _ _ _ enters => exact pass enters rfl rfl
  | dialed _ enters => exact pass enters rfl rfl
  | insert _ _ enters => exact pass enters rfl rfl
  | remove _ _ _ _ enters => exact pass enters rfl rfl
  | drain _ _ enters => exact pass enters rfl rfl
  | closed _ enters => exact pass enters rfl rfl

/-- What is left for a task that does not take all entries gets less with each of its moves. -/
theorem cost_of_work (move : c.move m = some d) (worker : m.worker? = some i) (task : c.tasks[i]? = some t)
    (bounded : t.phase.takesAll = false) :
    ∃ t', d.tasks = c.tasks.set i t' ∧ t'.phase.takesAll = false ∧ t'.cost < t.cost := by
  obtain ⟨t', tasks⟩ := tasks_of_work move worker
  have snapshots := sum_map_set (fun t : Task κ α => if t.phase.takesAll then 1 else 0) t' task
  have cost := sum_map_set Task.cost t' task
  rw [← tasks] at snapshots cost
  rw [bounded] at snapshots
  have less := less_of_move move (by rw [worker]; rfl)
  simp only [Less, Cache.snapshots, Cache.cost, Prod.lex_def] at less
  cases takes : t'.phase.takesAll with
  | true =>
    rw [takes] at snapshots
    simp only [Bool.false_eq_true, ↓reduceIte] at snapshots
    omega
  | false =>
    rw [takes] at snapshots
    simp only [Bool.false_eq_true, ↓reduceIte] at snapshots
    exact ⟨t', tasks, takes, by omega⟩

theorem step_eq_work {l l' : Lock} (task : c.tasks[i]? = some ⟨p, some l'⟩) (needs : p.lock? = some l) :
    c.step i = c.work i p := by
  simp only [step, task, needs, Option.bind_eq_bind, Option.bind_some]

/-- A bound on the moves that a task still makes if nobody else adds entries, those included that it is to take. -/
def toDo (c : Cache κ α) (t : Task κ α) : Nat :=
  t.cost + if t.phase.takesAll then 16 * c.entries.length + 2 else 0

/-- A task that is to take all entries takes its lock first, and then as many as there are. -/
theorem toDo_of_takesAll (step : c.step i = some d) (task : c.tasks[i]? = some t) (takes : t.phase.takesAll = true) :
    ∃ t', d.tasks = c.tasks.set i t' ∧ d.toDo t' < c.toDo t := by
  obtain ⟨p, lock⟩ := t
  have entered {q : Phase κ α} {c' : Cache κ α} (enters : c'.Enters i q d) (same : c'.tasks = c.tasks)
      (within : q.Within (8 * c.entries.length)) :
      ∃ t', d.tasks = c.tasks.set i t' ∧ d.toDo t' < c.toDo ⟨p, lock⟩ := by
    refine ⟨⟨q, none⟩, same ▸ enters.tasks, ?_⟩
    have bound := within.rest
    simp only [toDo, Task.cost, within.takesAll, takes, Option.isNone_none, Bool.false_eq_true, ↓reduceIte]
    omega
  cases lock with
  | none =>
    obtain ⟨l, needs⟩ : ∃ l, p.lock? = some l := by cases p <;> first | exact ⟨_, rfl⟩ | cases takes
    simp only [Cache.step, task, needs, Option.bind_eq_bind, Option.bind_some] at step
    split at step
    · cases step
      refine ⟨⟨p, some l⟩, rfl, ?_⟩
      simp [toDo, Task.cost, takes]
    · cases step
  | some l =>
    have all := (c.perm_found i).length_eq
    cases p with
    | draining =>
      rw [step_eq_work task rfl] at step
      cases step
      refine entered (enters_clearNext _ i _) rfl ?_
      exact ⟨(Phase.within_toClose _).takesAll, Nat.le_trans (Phase.within_toClose _).rest (by omega)⟩
    | noting =>
      rw [step_eq_work task rfl] at step
      cases step
      exact entered (enters_probeNext c i _ 0) rfl (all ▸ Phase.within_toPing _ _)
    | _ => cases takes

/-- What is left for a task gets less with each of its moves. -/
theorem toDo_of_work (move : c.move m = some d) (worker : m.worker? = some i) (task : c.tasks[i]? = some t) :
    ∃ t', d.tasks = c.tasks.set i t' ∧ d.toDo t' < c.toDo t := by
  cases takes : t.phase.takesAll with
  | false =>
    obtain ⟨t', tasks, bounded, less⟩ := cost_of_work move worker task takes
    exact ⟨t', tasks, by simpa [toDo, bounded, takes] using less⟩
  | true =>
    cases m with
    | step j =>
      cases worker
      exact toDo_of_takesAll move task takes
    | reply j r =>
      cases worker
      obtain ⟨p, l⟩ := t
      cases p with
      | draining | noting => cases r <;> simp [Cache.move, Cache.reply, task] at move
      | _ => cases takes
    | start | drop => cases worker

/-! ### Nobody else -/

/-- All tasks but one are over. -/
def Alone (c : Cache κ α) (i : Nat) : Prop := ∀ j p, j ≠ i → c.phase? j = some p → p.isOver = true

theorem phase?_set_of_ne (tasks : d.tasks = c.tasks.set i t) (other : j ≠ i) : d.phase? j = c.phase? j := by
  simp [phase?, tasks, List.getElem?_set_ne (Ne.symm other)]

theorem Alone.set (alone : c.Alone i) (tasks : d.tasks = c.tasks.set i t) : d.Alone i := fun j p other hp =>
  alone j p other (phase?_set_of_ne tasks other ▸ hp)

theorem step_of_over (hp : c.phase? i = some p) (ended : p.isOver = true) : c.step i = none := by
  obtain ⟨lock, task⟩ := phase?_eq_some.mp hp
  have lockless : p.lock? = none := by cases p <;> first | rfl | cases ended
  simp [step, task, lockless]

theorem Alone.eq_of_ongoing (alone : c.Alone i) (hq : c.phase? j = some q) (ongoing : q.isOver = false) : j = i := by
  refine Classical.byContradiction fun other => ?_
  rw [alone j q other hq] at ongoing
  cases ongoing

/-- A task alone takes its next step or waits for the client. -/
theorem Alone.able (alone : c.Alone i) (o : c.Orderly) (hp : c.phase? i = some p) (ongoing : p.isOver = false) :
    (c.step i).isSome ∨ ∃ r, p.request? = some r := by
  rcases o.progress hp ongoing with ⟨j, r, asked⟩ | ⟨j, able⟩
  · obtain ⟨q, hq, asks⟩ := request?_eq_some.mp asked
    have busy : q.isOver = false := by cases q <;> first | rfl | cases asks
    obtain rfl := alone.eq_of_ongoing hq busy
    cases hp.symm.trans hq
    exact Or.inr ⟨r, asks⟩
  · cases hq : c.phase? j with
    | none =>
      have gone : c.tasks[j]? = none := by simpa [phase?] using hq
      simp [step, gone] at able
    | some q =>
      cases ended : q.isOver with
      | false =>
        obtain rfl := alone.eq_of_ongoing hq ended
        exact Or.inl able
      | true =>
        rw [step_of_over hq ended] at able
        cases able

/-- Nobody else stands at a gate, so nobody is let through when a task leaves one. -/
theorem Alone.letThrough?_eq_none (alone : c.Alone i) (o : c.Orderly) (tasks : d.tasks = c.tasks.set i t)
    (o' : d.Orderly) {f : Fingerprint} (hp : c.phase? i = some p) (standing : p.gate? = some f) :
    Timeline.letThrough? c d f = none := by
  have own {c : Cache κ α} (alone : c.Alone i) (o : c.Orderly) {j : Nat} (first : c.first? f = some j) : j = i := by
    obtain ⟨q, hq, gate⟩ := o.placed f j (mem_gates_of_first? first)
    have busy : q.isOver = false := by cases q <;> first | rfl | cases gate
    exact alone.eq_of_ongoing hq busy
  obtain ⟨j, -, -, -, first⟩ := o.first_of_waiting hp standing
  obtain rfl := own alone o first
  cases first' : d.first? f with
  | none => simp [Timeline.letThrough?, first']
  | some j =>
    obtain rfl := own (alone.set tasks) o' first'
    simp [Timeline.letThrough?, first', first]

end Cache

/-! ### Replies -/

/-- Such a request can come to this reply. -/
def Request.takes : Request κ → Reply α → Bool
  | .dial .., .value _ | .ping _, .value _ | .operate _, .success | .close _, .value _ | .close _, .overdue => false
  | _, _ => true

theorem Cache.reply_isSome {r : Reply α} {request : Request κ} (hp : c.phase? i = some p)
    (asks : p.request? = some request) (takes : request.takes r = true) : (c.reply i r).isSome := by
  obtain ⟨lock, task⟩ := Cache.phase?_eq_some.mp hp
  cases p with
  | dialing | operating | closing | pinging =>
    cases asks
    cases r <;> first | cases takes; done | simp [Cache.reply, task]
  | _ => cases asks

end StoreAccess
