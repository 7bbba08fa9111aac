import StoreAccess.Proofs.Cache.Solitude

/-! Calls that are made one at a time. Whoever makes a call waits for its end, so its task is alone with the client:
    each turn takes a step of the task, sends its request, or brings it the reply. The call comes to its answer,
    and leaves nothing behind that is still to happen. -/

namespace StoreAccess

variable {κ α σ : Type} [BackendConfig κ] {c d : Cache κ α} {i j : Nat} {m : Move κ α} {p q : Phase κ α}
  {options : CacheOptions} {call : Call κ} {client : Client κ α σ} {r : Reply α} {request : Request κ}

/-- A cache of which everything was seen. -/
def Cache.seen (c : Cache κ α) : Cache κ α := { c with events := [] }

namespace Timeline

variable {w w' : Timeline κ α σ} {s : σ}

/-! ### A task and its caller -/

/-- One task is at work, for a caller; all before it are over. -/
structure Visit (options : CacheOptions) (call : Call κ) (i : Nat) (w : Timeline κ α σ) : Prop where
  orderly : w.cache.Orderly
  alone : w.cache.Alone i
  length : w.cache.tasks.length = i + 1
  owners : w.owners = List.replicate (i + 1) .caller
  unended : ∀ e ∈ w.ended, e.1 < i
  options : w.cache.options = options
  admitted : ∃ calls, w.cache.Admitted calls ∧ calls[i]? = some call

/-- What is still to happen apart, `w'` is `w` with another cache and another client. -/
structure Turned (w : Timeline κ α σ) (c : Cache κ α) (s : σ) (w' : Timeline κ α σ) : Prop where
  cache : w'.cache = c
  client : w'.client = s
  owners : w'.owners = w.owners
  ended : w'.ended = w.ended

/-- The task runs next, and nothing else is to happen. -/
structure Runs (w : Timeline κ α σ) (i : Nat) : Prop where
  ready : w.ready = [.task i]
  agenda : w.agenda = []

/-- The task waits for a reply that is due, and nothing else is to happen. -/
structure Waits (w : Timeline κ α σ) (i : Nat) (r : Reply α) : Prop where
  ready : w.ready = []
  agenda : ∃ time, w.agenda = [(time, .reply i (some r))]

/-- Nothing is left to happen. -/
structure AtRest (options : CacheOptions) (w : Timeline κ α σ) : Prop where
  ready : w.ready = []
  agenda : w.agenda = []
  orderly : w.cache.Orderly
  idle : ∀ j p, w.cache.phase? j = some p → p.isOver = true
  owners : w.owners = List.replicate w.cache.tasks.length .caller
  ended : ∀ e ∈ w.ended, e.1 < w.cache.tasks.length
  options : w.cache.options = options
  admitted : ∃ calls, w.cache.Admitted calls

namespace Visit

variable (v : Visit options call i w)
include v

theorem moved (move : w.cache.move m = some d) (worker : m.worker? = some i) (turned : w.Turned d.seen s w') :
    Visit options call i w' := by
  obtain ⟨t, tasks⟩ := Cache.tasks_of_work move worker
  have o : d.Orderly := v.orderly.move move
  obtain ⟨calls, admitted, hcall⟩ := v.admitted
  have admitted' := admitted.move move
  have uncalled : m.call? = none := by cases m <;> first | rfl | cases worker
  rw [uncalled, Option.toList_none, List.append_nil] at admitted'
  obtain ⟨cache, -, owners, ended⟩ := turned
  constructor
  · rw [cache]
    exact ⟨o.locks, o.waiting, o.placed⟩
  · rw [cache]
    exact v.alone.set tasks
  · rw [cache]
    show d.tasks.length = i + 1
    rw [tasks, List.length_set, v.length]
  · rw [owners, v.owners]
  · rw [ended]
    exact v.unended
  · rw [cache]
    exact (Cache.options_of_move move).trans v.options
  · refine ⟨calls, ?_, hcall⟩
    rw [cache]
    exact ⟨admitted'.length, admitted'.admits⟩

theorem sent (turned : w.Turned w.cache s w') : Visit options call i w' := by
  obtain ⟨cache, -, owners, ended⟩ := turned
  exact ⟨cache ▸ v.orderly, cache ▸ v.alone, cache ▸ v.length, owners.trans v.owners, ended ▸ v.unended,
    cache ▸ v.options, cache ▸ v.admitted⟩

/-- Nobody waits at the gate at which the task stands. -/
theorem change_eq (w' : Timeline κ α σ) (move : w.cache.move m = some d) (worker : m.worker? = some i)
    (same : w'.cache = w.cache) : w'.change i d = w'.update d := by
  obtain ⟨t, tasks⟩ := Cache.tasks_of_work move worker
  have silent : ((w'.phase? i).bind Phase.gate?).bind (letThrough? w'.cache d) = none := by
    rw [phase?, same]
    cases hp : (w.cache.tasks[i]?).map Task.phase with
    | none => rfl
    | some p =>
      cases standing : p.gate? with
      | none => simp [standing]
      | some f =>
        simpa [standing] using v.alone.letThrough?_eq_none v.orderly tasks (v.orderly.move move) hp standing
  rw [change, silent]

/-! ### Turns -/

/-- A turn in which the task takes a step. -/
theorem turn_step (runs : w.Runs i) (step : w.cache.step i = some d) (client : Client κ α σ) :
    ∃ w', w.turn client = some w' ∧ w'.Runs i ∧ w.Turned d.seen w.client w' := by
  have changed := v.change_eq (m := .step i) { w with ready := [] } step rfl rfl
  have turn : w.turn client = some ((({ w with ready := [] } : Timeline κ α σ).update d).soon (.task i)) := by
    simp only [turn, runs.ready, runTask, step, changed]
  exact ⟨_, turn, ⟨rfl, runs.agenda⟩, ⟨rfl, rfl, rfl, rfl⟩⟩

/-- The task takes the reply that was due, and runs next. -/
theorem give (asks : ∃ p, w.cache.phase? i = some p ∧ p.request? = some request) (takes : request.takes r = true)
    (ready : w.ready = []) (due : ∀ x ∈ w.agenda, x.2.isReplyTo i = true) :
    ∃ d, w.cache.reply i r = some d ∧ (w.give i r).Runs i ∧ w.Turned d.seen w.client (w.give i r) := by
  obtain ⟨p, hp, asked⟩ := asks
  obtain ⟨d, reply⟩ := Option.isSome_iff_exists.mp (Cache.reply_isSome hp asked takes)
  have none : w.agenda.filter (fun x => !x.2.isReplyTo i) = [] := by
    rw [List.filter_eq_nil_iff]
    intro x hx
    simp [due x hx]
  refine ⟨d, reply, ?_⟩
  -- The handles that were dialed are of no account here.
  have given : ∀ w' : Timeline κ α σ, w'.cache = w.cache → w'.ready = [] → w'.agenda = w.agenda →
      w.Turned w.cache w.client w' →
      (((w'.unplan i).change i d).soon (.task i)).Runs i ∧
        w.Turned d.seen w.client (((w'.unplan i).change i d).soon (.task i)) := fun w' same ready agenda turned => by
    have changed := v.change_eq (m := .reply i r) (w'.unplan i) reply rfl same
    rw [changed]
    refine ⟨⟨?_, ?_⟩, rfl, turned.client, turned.owners, turned.ended⟩
    · show .task i :: w'.ready = _
      rw [ready]
    · show w'.agenda.filter _ = []
      rw [agenda, none]
  simp only [Timeline.give, reply]
  split
  · exact given _ rfl ready rfl ⟨rfl, rfl, rfl, rfl⟩
  · exact given w rfl ready rfl ⟨rfl, rfl, rfl, rfl⟩

/-- A turn in which the reply comes that the task waits for. -/
theorem turn_wait (waits : w.Waits i r) (asks : ∃ p, w.cache.phase? i = some p ∧ p.request? = some request)
    (takes : request.takes r = true) (client : Client κ α σ) :
    ∃ w' d, w.turn client = some w' ∧ w.cache.reply i r = some d ∧ w'.Runs i ∧ w.Turned d.seen w.client w' := by
  obtain ⟨ready, time, agenda⟩ := waits
  let w₀ : Timeline κ α σ := { w with now := time, ready := [], agenda := [] }
  have childless : w₀.childrenOf i = [] := by
    rw [childrenOf, List.filter_eq_nil_iff]
    intro j _
    have owner : w₀.owners[j]? = if j < i + 1 then some .caller else none := by
      rw [show w₀.owners = w.owners from rfl, v.owners, List.getElem?_replicate]
    rw [owner]
    by_cases before : j < i + 1 <;> simp [before]
  have turn : w.turn client = some (w₀.give i r) := by
    simp only [turn, ready, agenda, happen]
    show some (conclude ((w₀.childrenOf i).foldl dropTask w₀) i (some r)) = _
    rw [childless]
    rfl
  have v₀ : Visit options call i w₀ := v.sent (s := w.client) ⟨rfl, rfl, rfl, rfl⟩
  obtain ⟨d, reply, runs, turned⟩ := v₀.give (r := r) asks takes rfl (by simp [w₀])
  exact ⟨_, d, turn, reply, runs, turned.cache, turned.client, turned.owners, turned.ended⟩

/-- A turn in which the task sends its request. Only the deadline of the request, if it has one, is on the agenda
    then. -/
theorem turn_request (runs : w.Runs i) (asks : ∃ p, w.cache.phase? i = some p ∧ p.request? = some request)
    {delay : Nat} (conduct : client.conduct w.client i request = (s, ⟨[], delay, some r⟩)) :
    ∃ w', w.turn client = some (w'.answerAfter i delay (some r)) ∧ w.Turned w.cache s w' ∧ w'.now = w.now ∧
      w'.ready = [] ∧ w'.agenda = ((request.limit? options).map fun limit =>
        (w.now + roundUp limit, .reply i (some .overdue))).toList := by
  obtain ⟨p, hp, asked⟩ := asks
  have unanswered : p.answer? = none := by cases p <;> first | rfl | cases asked
  have stuck : w.cache.step i = none := Cache.step_of_request? (Cache.request?_eq_some.mpr ⟨p, hp, asked⟩)
  let w₁ : Timeline κ α σ := { w with ready := [], client := s }
  let w₂ : Timeline κ α σ := (request.limit? w.cache.options).elim w₁ fun limit =>
    w₁.plan (w.now + roundUp limit) (.reply i (some .overdue))
  have turn : w.turn client = some (w₂.answerAfter i delay (some r)) := by
    have hp' : ({ w with ready := [] } : Timeline κ α σ).phase? i = some p := hp
    simp only [turn, runs.ready, runTask, stuck, hp', unanswered, asked, send, conduct, w₂]
    cases request.limit? w.cache.options <;> rfl
  refine ⟨w₂, turn, ?_⟩
  simp only [w₂, v.options]
  cases request.limit? options with
  | none => exact ⟨⟨rfl, rfl, rfl, rfl⟩, rfl, rfl, runs.agenda⟩
  | some limit =>
    refine ⟨⟨rfl, rfl, rfl, rfl⟩, rfl, rfl, ?_⟩
    show insertDue _ _ w.agenda = _
    rw [runs.agenda]
    rfl

/-- A turn in which the task sends its request, to a client that keeps to the time that the request may take or else
    says that it is overdue. -/
theorem turn_send (runs : w.Runs i) (asks : ∃ p, w.cache.phase? i = some p ∧ p.request? = some request)
    (takes : request.takes r = true) {delay : Nat}
    (conduct : client.conduct w.client i request = (s, ⟨[], delay, some r⟩))
    (prompt : ∀ limit, request.limit? options = some limit → roundUp limit < delay → r = .overdue) :
    ∃ w', w.turn client = some w' ∧
      ((w'.Waits i r ∧ w.Turned w.cache s w') ∨
        ∃ d, w.cache.reply i r = some d ∧ w'.Runs i ∧ w.Turned d.seen s w') := by
  obtain ⟨w', turn, turned, now, ready, agenda⟩ := v.turn_request runs asks conduct
  refine ⟨_, turn, ?_⟩
  by_cases atOnce : delay = 0
  · have due : ∀ x ∈ w'.agenda, x.2.isReplyTo i = true := fun x hx => by
      rw [agenda, Option.mem_toList, Option.map_eq_some_iff] at hx
      obtain ⟨limit, -, rfl⟩ := hx
      exact beq_self_eq_true i
    obtain ⟨d, reply, runs, given⟩ := (v.sent turned).give (turned.cache.symm ▸ asks) takes ready due
    have concluded : w'.answerAfter i delay (some r) = w'.give i r := if_pos atOnce
    rw [concluded]
    exact Or.inr ⟨d, turned.cache ▸ reply, runs, given.cache, given.client.trans turned.client,
      given.owners.trans turned.owners, given.ended.trans turned.ended⟩
  · refine Or.inl ?_
    rw [answerAfter, if_neg atOnce, agenda, now]
    cases limited : request.limit? options with
    | none =>
      rw [limited] at agenda
      refine ⟨⟨ready, ⟨w.now + delay, ?_⟩⟩, turned.cache, turned.client, turned.owners, turned.ended⟩
      show insertDue _ _ w'.agenda = _
      rw [agenda]
      rfl
    | some limit =>
      rw [limited] at agenda
      have own : (Due.reply i (some .overdue) : Due α).isReplyTo i = true := beq_self_eq_true i
      simp only [Option.map_some, Option.toList_some, List.find?_cons, own, Nat.add_le_add_iff_left]
      by_cases inTime : delay ≤ roundUp limit
      · rw [if_pos inTime]
        refine ⟨⟨ready, ⟨w.now + delay, ?_⟩⟩, turned.cache, turned.client, turned.owners, turned.ended⟩
        show insertDue _ _ (w'.agenda.filter _) = _
        rw [agenda]
        simp [own, insertDue]
      · rw [if_neg inTime]
        obtain rfl := prompt limit limited (Nat.lt_of_not_le inTime)
        exact ⟨⟨ready, _, agenda⟩, turned⟩

/-- A turn in which a task that is over says so to its caller. -/
theorem turn_end (runs : w.Runs i) {a : CallAnswer α} (hp : w.cache.phase? i = some (.finished a))
    (client : Client κ α σ) :
    ∃ w', w.turn client = some w' ∧ w'.isEnded i = true ∧ w'.AtRest options ∧ w'.cache = w.cache ∧
      w'.client = w.client := by
  have stuck : w.cache.step i = none := Cache.step_of_over hp rfl
  have owner : ({ w with ready := [] } : Timeline κ α σ).owners[i]? = some .caller := by
    show w.owners[i]? = _
    rw [v.owners, List.getElem?_replicate, if_pos (Nat.lt_succ_self i)]
  have notified : ({ w with ready := [] } : Timeline κ α σ).notify i a =
      { w with ready := [], ended := w.ended ++ [(i, w.now)] } := by
    simp only [notify, owner]
  have turn : w.turn client = some { w with ready := [], ended := w.ended ++ [(i, w.now)] } := by
    have hp' : ({ w with ready := [] } : Timeline κ α σ).phase? i = some (.finished a) := hp
    simp only [turn, runs.ready, runTask, stuck, hp', Phase.answer?, notified]
  obtain ⟨calls, admitted, -⟩ := v.admitted
  refine ⟨_, turn, by simp [isEnded], ⟨rfl, runs.agenda, v.orderly, fun j p hj => ?_, ?_, fun e he => ?_, v.options,
    ⟨calls, admitted⟩⟩, rfl, rfl⟩
  · by_cases same : j = i
    · subst same
      cases hp.symm.trans hj
      rfl
    · exact v.alone j p same hj
  · show w.owners = List.replicate w.cache.tasks.length .caller
    rw [v.length, v.owners]
  · show e.1 < w.cache.tasks.length
    rw [v.length]
    rcases List.mem_append.mp he with he | he
    · exact Nat.lt_succ_of_lt (v.unended e he)
    · rw [List.mem_singleton.mp he]
      exact Nat.lt_succ_self i

end Visit

/-! ### A whole call -/

/-- So many turns lead from one timeline to another, and before each of them a condition does not hold. -/
inductive Turns (client : Client κ α σ) (done : Timeline κ α σ → Bool) :
    Nat → Timeline κ α σ → Timeline κ α σ → Prop
  | refl {w : Timeline κ α σ} : Turns client done 0 w w
  | cons {n : Nat} {w w' w'' : Timeline κ α σ} (busy : done w = false) (turn : w.turn client = some w')
      (rest : Turns client done n w' w'') : Turns client done (n + 1) w w''

theorem Turns.run {done : Timeline κ α σ → Bool} {n : Nat} (turned : Turns client done n w w') (fuel : Nat)
    (ended : done w' = true) : turns client done (fuel + n) w = w' := by
  induction turned with
  | refl => cases fuel <;> simp [turns, ended]
  | @cons n w w' _ busy turn _ ih =>
    show turns client done (fuel + n + 1) w = _
    rw [turns, busy, turn]
    exact ih ended

theorem Turns.trans {done : Timeline κ α σ → Bool} {n m : Nat} {w'' : Timeline κ α σ}
    (first : Turns client done n w w') (second : Turns client done m w' w'') : Turns client done (n + m) w w'' := by
  induction first with
  | refl => rwa [Nat.zero_add]
  | cons busy turn _ ih =>
    rw [Nat.succ_add]
    exact .cons busy turn (ih second)

/-- What a task says to the client and hears from it, and what becomes of the client meanwhile. -/
inductive Follows (client : Client κ α σ) (i : Nat) (s : σ) : List (Request κ × Reply α) → σ → Prop
  | nil : Follows client i s [] s
  | snoc {s' s'' : σ} {heard : List (Request κ × Reply α)} {request : Request κ} {delay : Nat} {r : Reply α}
      (before : Follows client i s heard s') (conduct : client.conduct s' i request = (s'', ⟨[], delay, some r⟩)) :
      Follows client i s (heard ++ [(request, r)]) s''

/-- A client that has a reply to each request of a call, in time or else that it is overdue; `J` says what holds of
    the task at each phase by what it has heard. -/
structure Answers (options : CacheOptions) (call : Call κ) (client : Client κ α σ) (i : Nat) (s : σ)
    (J : List (Request κ × Reply α) → Phase κ α → Prop) : Prop where
  begins : J [] (.ofCall call)
  steps : ∀ heard (c d : Cache κ α) p q, J heard p → c.phase? i = some p → c.step i = some d →
    d.phase? i = some q → J heard q
  replies : ∀ heard (c d : Cache κ α) p q request r, J heard p → c.phase? i = some p →
    p.request? = some request → c.reply i r = some d → d.phase? i = some q → J (heard ++ [(request, r)]) q
  prompt : ∀ heard p request s', J heard p → call.Admits p → p.request? = some request →
    Follows client i s heard s' → ∃ s'' delay r, client.conduct s' i request = (s'', ⟨[], delay, some r⟩) ∧
      request.takes r = true ∧ ∀ limit, request.limit? options = some limit → roundUp limit < delay → r = .overdue

/-- The task goes on next, has so much left to do, and has heard so much. -/
structure Works (options : CacheOptions) (call : Call κ) (client : Client κ α σ) (i : Nat) (s : σ)
    (J : List (Request κ × Reply α) → Phase κ α → Prop) (t : Task κ α) (heard : List (Request κ × Reply α))
    (w : Timeline κ α σ) : Prop where
  visit : Visit options call i w
  runs : w.Runs i
  task : w.cache.tasks[i]? = some t
  alive : t.phase ≠ .dropped
  holds : J heard t.phase
  follows : Follows client i s heard w.client

/-- The task has its answer, and nothing is left to happen. -/
structure Answered (options : CacheOptions) (client : Client κ α σ) (i : Nat) (s : σ)
    (J : List (Request κ × Reply α) → Phase κ α → Prop) (a : CallAnswer α) (heard : List (Request κ × Reply α))
    (w : Timeline κ α σ) : Prop where
  ended : w.isEnded i = true
  rest : w.AtRest options
  phase : w.cache.phase? i = some (.finished a)
  holds : J heard (.finished a)
  follows : Follows client i s heard w.client

theorem Visit.busy (v : Visit options call i w) : w.isEnded i = false := by
  rw [isEnded, List.any_eq_false]
  intro e he
  simpa using Nat.ne_of_lt (v.unended e he)

namespace Works

variable {J : List (Request κ × Reply α) → Phase κ α → Prop} {heard heard' : List (Request κ × Reply α)}
  {t : Task κ α} {s' : σ} (works : Works options call client i s J t heard w)
include works

/-- A move of the task leaves it less to do. -/
theorem moved (move : w.cache.move m = some d) (worker : m.worker? = some i) (undropped : m.dropped? = none)
    (runs : w'.Runs i) (turned : w.Turned d.seen s' w') (follows : Follows client i s heard' s')
    (holds : ∀ q, d.phase? i = some q → J heard' q) :
    ∃ t', w'.cache.toDo t' < w.cache.toDo t ∧ Works options call client i s J t' heard' w' := by
  obtain ⟨t', tasks, less⟩ := Cache.toDo_of_work move worker works.task
  obtain ⟨hi, -⟩ := List.getElem?_eq_some_iff.mp works.task
  have task : d.tasks[i]? = some t' := by rw [tasks, List.getElem?_set_self hi]
  have alive : t'.phase ≠ .dropped := fun dropped => by
    rcases Cache.dropped_of_move move (dropped ▸ Cache.phase?_of_task task) with before | rfl
    · rw [Cache.phase?_of_task works.task] at before
      exact works.alive (Option.some.inj before)
    · cases undropped
  refine ⟨t', ?_, works.visit.moved move worker turned, runs, ?_, alive, holds _ (Cache.phase?_of_task task),
    turned.client.symm ▸ follows⟩
  · rw [turned.cache]
    exact less
  · rw [turned.cache]
    exact task

/-- In one turn or two the task gets further, unless it is over. -/
theorem goes_on (answers : Answers options call client i s J) (ongoing : t.phase.isOver = false) :
    ∃ n w' t' heard', n ≤ 2 ∧ Turns client (fun w => w.isEnded i) n w w' ∧ w'.cache.toDo t' < w.cache.toDo t ∧
      Works options call client i s J t' heard' w' := by
  have v := works.visit
  have hp := Cache.phase?_of_task works.task
  rcases v.alone.able v.orderly hp ongoing with able | ⟨request, asks⟩
  · obtain ⟨d, step⟩ := Option.isSome_iff_exists.mp able
    obtain ⟨w', turn, runs, turned⟩ := v.turn_step works.runs step client
    obtain ⟨t', less, works'⟩ := works.moved (m := .step i) step rfl rfl runs turned works.follows
      fun q hq => answers.steps heard _ d _ q works.holds hp step hq
    exact ⟨1, w', t', _, by decide, .cons v.busy turn .refl, less, works'⟩
  · obtain ⟨calls, admitted, hcall⟩ := v.admitted
    obtain ⟨s', delay, r, conduct, takes, prompt⟩ := answers.prompt heard _ request _ works.holds
      (admitted.admits i call _ hcall hp) asks works.follows
    have further := works.follows.snoc conduct
    have replied : ∀ d, w.cache.reply i r = some d → ∀ q, d.phase? i = some q → J (heard ++ [(request, r)]) q :=
      fun d reply q hq => answers.replies heard _ d _ q request r works.holds hp asks reply hq
    have asked : ∃ p, w.cache.phase? i = some p ∧ p.request? = some request := ⟨_, hp, asks⟩
    obtain ⟨w', turn, ⟨waits, sent⟩ | ⟨d, reply, runs, turned⟩⟩ := v.turn_send works.runs asked takes conduct prompt
    · have v' := v.sent sent
      obtain ⟨w'', d, turn', reply, runs, turned⟩ := v'.turn_wait waits (sent.cache ▸ asked) takes client
      rw [sent.cache] at reply
      have turned' : w.Turned d.seen s' w'' := ⟨turned.cache, turned.client.trans sent.client,
        turned.owners.trans sent.owners, turned.ended.trans sent.ended⟩
      obtain ⟨t', less, works'⟩ := works.moved (m := .reply i r) reply rfl rfl runs turned' further (replied d reply)
      exact ⟨2, w'', t', _, by decide, .cons v.busy turn (.cons v'.busy turn' .refl), less, works'⟩
    · obtain ⟨t', less, works'⟩ := works.moved (m := .reply i r) reply rfl rfl runs turned further (replied d reply)
      exact ⟨1, w', t', _, by decide, .cons v.busy turn .refl, less, works'⟩

/-- The task comes to its answer in a bounded number of turns. -/
theorem ends (answers : Answers options call client i s J) :
    ∃ n w' heard' a, n ≤ 2 * w.cache.toDo t + 1 ∧ Turns client (fun w => w.isEnded i) n w w' ∧
      Answered options client i s J a heard' w' := by
  -- Induction on what is left to do, which every move of the task lowers.
  induction left : w.cache.toDo t using Nat.strongRecOn generalizing w t heard with
  | ind cost ih =>
    subst left
    cases state : t.phase.isOver with
    | true =>
      have hp := Cache.phase?_of_task works.task
      have holds := works.holds
      cases hphase : t.phase with
      | finished a =>
        rw [hphase] at hp holds
        obtain ⟨w', turn, ended, rest, cache, client'⟩ := works.visit.turn_end works.runs hp client
        exact ⟨1, w', heard, a, by omega, .cons works.visit.busy turn .refl, ended, rest, cache ▸ hp, holds,
          client' ▸ works.follows⟩
      | dropped => exact absurd hphase works.alive
      | _ =>
        rw [hphase] at state
        cases state
    | false =>
      obtain ⟨n, w', t', heard', few, turns, less, works'⟩ := works.goes_on answers state
      obtain ⟨m, w'', heard'', a, bound, turns', answered⟩ := ih (w'.cache.toDo t') less works' rfl
      exact ⟨n + m, w'', heard'', a, by omega, turns.trans turns', answered⟩

end Works

namespace AtRest

variable (rest : w.AtRest options)
include rest

/-- Whoever makes a call then is alone. -/
theorem visit (call : Call κ) : Visit options call w.cache.tasks.length (w.begin call .caller) := by
  obtain ⟨calls, admitted⟩ := rest.admitted
  refine ⟨?_, fun j p other hp => ?_, ?_, ?_, rest.ended, rest.options, calls ++ [call], admitted.start call, ?_⟩
  · exact rest.orderly.start call
  · rcases Cache.start_phase_cases hp with hp | ⟨same, -⟩
    · exact rest.idle j p hp
    · exact absurd same other
  · show (w.cache.tasks ++ [_]).length = _
    rw [List.length_append]
    rfl
  · show w.owners ++ [Owner.caller] = _
    rw [rest.owners, List.replicate_succ']
  · rw [admitted.length, List.getElem?_concat_length]

end AtRest

end Timeline

end StoreAccess
