import StoreAccess.Proofs.Cache.Stalls

/-! What a stalled client keeps calls from. Dials, probes and operations have a deadline, which is never at once,
    and closing a handle has none. So if the client does nothing any more all calls still come to an end, but for
    those that wait for a handle to be closed: they wait for ever. -/

namespace StoreAccess

variable {κ α : Type} [BackendConfig κ] {backend : BackendKind} {options : CacheOptions} {order : EntryOrder}
  {c₀ c d : Cache κ α} {h : History κ α} {i j : Nat} {m : Move κ α} {p : Phase κ α} {l : Lease}

/-! ### Deadlines -/

theorem CacheOptions.pos_of_check (checked : options.check = .ok ()) :
    0 < options.dialTimeout.nanos ∧ 0 < options.operationTimeout.nanos := by
  have none : options.zeroTimes = [] := by
    unfold check at checked
    split at checked
    · assumption
    · cases checked
  simp only [zeroTimes, Duration.isZero, List.append_eq_nil_iff] at none
  obtain ⟨⟨dial, operation⟩, -⟩ := none
  refine ⟨Nat.pos_of_ne_zero fun zero => ?_, Nat.pos_of_ne_zero fun zero => ?_⟩
  · simp [zero] at dial
  · simp [zero] at operation

namespace Cache

theorem check_of_new (new : Cache.ofOptions backend options order = .ok c₀) : options.check = .ok () := by
  unfold Cache.ofOptions at new
  cases checked : options.check with
  | error e =>
    rw [checked] at new
    cases new
  | ok => rfl

end Cache

theorem Run.options_eq (new : Cache.ofOptions backend options order = .ok c₀) (run : Run c₀ h c) :
    c.options = options := by
  refine run.keeps (fun _ _ _ same move => (Cache.options_of_move move).trans same) ?_
  rw [Cache.ofOptions_eq_ok new]

/-! ### Going on without the client -/

namespace Cache

/-- The moves that need nothing of the client: the steps of tasks, and that the time for a request is over. -/
inductive Unaided (c : Cache κ α) : Move κ α → Prop
  | step {i : Nat} : Unaided c (.step i)
  | overdue {i : Nat} {r : Request κ} {limit : Duration} (asked : c.request? i = some r)
      (limited : r.limit? c.options = some limit) : Unaided c (.reply i .overdue)

/-- The client answers a request to close a handle. -/
inductive Closes (c : Cache κ α) : Move κ α → Prop
  | intro {i : Nat} {l : Lease} {r : Reply α} (asked : c.request? i = some (.close l)) : Closes c (.reply i r)

theorem Unaided.worker?_isSome (unaided : c.Unaided m) : m.worker?.isSome := by cases unaided <;> rfl

theorem Unaided.dropped?_eq_none (unaided : c.Unaided m) : m.dropped? = none := by cases unaided <;> rfl

theorem answer?_of_request? {r : Request κ} (asked : c.request? i = some r) : c.answer? i = none := by
  obtain ⟨p, hp, hr⟩ := request?_eq_some.mp asked
  obtain ⟨lock, task⟩ := phase?_eq_some.mp hp
  have unanswered : p.answer? = none := by cases p <;> first | rfl | cases hr
  simp [answer?, task, unanswered]

theorem reply_overdue_of_request? {r : Request κ} {limit : Duration} (asked : c.request? i = some r)
    (limited : r.limit? c.options = some limit) : (c.move (.reply i .overdue)).isSome := by
  obtain ⟨p, hp, hr⟩ := request?_eq_some.mp asked
  obtain ⟨lock, task⟩ := phase?_eq_some.mp hp
  cases p with
  | dialing | operating | pinging => simp [move, reply, task]
  | closing =>
    cases hr
    cases limited
  | _ => cases hr

theorem reply_overdue_of_closing (asked : c.request? i = some (.close l)) : c.move (.reply i .overdue) = none := by
  obtain ⟨p, hp, hr⟩ := request?_eq_some.mp asked
  obtain ⟨lock, task⟩ := phase?_eq_some.mp hp
  cases p with
  | closing => simp [move, reply, task]
  | _ => cases hr

theorem reply_success_of_closing (asked : c.request? i = some (.close l)) :
    (c.move (.reply i .success)).isSome := by
  obtain ⟨p, hp, hr⟩ := request?_eq_some.mp asked
  obtain ⟨lock, task⟩ := phase?_eq_some.mp hp
  cases p with
  | closing => simp [move, reply, task]
  | _ => cases hr

/-- Whoever waits for a handle to be closed still does after such a move. -/
theorem Unaided.closing_kept (unaided : c.Unaided m) (move : c.move m = some d)
    (asked : c.request? j = some (.close l)) : d.request? j = some (.close l) := by
  have idle : m.worker? ≠ some j := fun worker => by
    cases unaided with
    | step =>
      cases worker
      rw [Cache.move, step_of_request? asked] at move
      cases move
    | overdue asked' limited =>
      cases worker
      rw [reply_overdue_of_closing asked] at move
      cases move
  obtain ⟨p, hp, hr⟩ := request?_eq_some.mp asked
  exact request?_eq_some.mpr ⟨p, phase?_of_other move hp idle (by rw [unaided.dropped?_eq_none]; simp), hr⟩

/-- A call that is not over waits for a handle to be closed, or something can go on without the client. -/
theorem Orderly.unaided_or_closing (o : Orderly c) (hp : c.phase? i = some p) (ongoing : p.isOver = false) :
    (∃ m d, c.Unaided m ∧ c.move m = some d) ∨ ∃ l, c.request? i = some (.close l) := by
  have able : ∀ {j r limit}, c.request? j = some r → r.limit? c.options = some limit →
      ∃ m d, c.Unaided m ∧ c.move m = some d := fun asked limited => by
    obtain ⟨d, move⟩ := Option.isSome_iff_exists.mp (reply_overdue_of_request? asked limited)
    exact ⟨_, d, .overdue asked limited, move⟩
  rcases o.step_or_unlocked with ⟨j, hj⟩ | unlocked
  · obtain ⟨d, step⟩ := Option.isSome_iff_exists.mp hj
    exact Or.inl ⟨.step j, d, .step, step⟩
  · -- Whoever has passed its gate takes its lock, or waits for the client.
    have go : ∀ {j : Nat} {q : Phase κ α}, c.phase? j = some q → q.isOver = false → c.passed j q = true →
        (∃ m d, c.Unaided m ∧ c.move m = some d) ∨ ∃ l, c.request? j = some (.close l) :=
      fun {j q} hq ongoing passed => by
        obtain ⟨lock, task⟩ := phase?_eq_some.mp hq
        have hlock : lock = none := unlocked _ (List.mem_of_getElem? task)
        subst hlock
        cases needs : q.lock? with
        | some l =>
          obtain ⟨d, step⟩ := Option.isSome_iff_exists.mp (step_of_unlocked task needs unlocked passed)
          exact Or.inl ⟨.step j, d, .step, step⟩
        | none =>
          cases q with
          | dialing => exact Or.inl (able (request?_eq_some.mpr ⟨_, hq, rfl⟩) rfl)
          | operating => exact Or.inl (able (request?_eq_some.mpr ⟨_, hq, rfl⟩) rfl)
          | pinging => exact Or.inl (able (request?_eq_some.mpr ⟨_, hq, rfl⟩) rfl)
          | closing => exact Or.inr ⟨_, request?_eq_some.mpr ⟨_, hq, rfl⟩⟩
          | finished | dropped => cases ongoing
          | _ => cases needs
    cases hgate : p.gate? with
    | none => exact go hp ongoing (by simp [passed, hgate])
    | some f =>
      obtain ⟨j, q, hq, hgate', hfirst⟩ := o.first_of_waiting hp hgate
      have ongoing' : q.isOver = false := by cases q <;> first | rfl | cases hgate'
      rcases go hq ongoing' (by simp [passed, hgate', hfirst]) with able | ⟨l, asked⟩
      · exact Or.inl able
      · -- Nobody at a gate waits for a handle to be closed.
        obtain ⟨q', hq', hr⟩ := request?_eq_some.mp asked
        cases hq.symm.trans hq'
        cases q with
        | closing => cases hgate'
        | _ => cases hr

end Cache

/-! ### Calls -/

theorem Call.Admits.not_closing {config : κ} (admits : (Call.acquire config).Admits p) :
    p.request? ≠ some (.close l) := by
  intro asked
  rcases Call.Admits.acquires? admits with acquires | ended
  · cases p with
    | closing => cases acquires
    | _ => cases asked
  · cases p with
    | closing => cases ended
    | _ => cases asked

/-- What becomes of the calls of a history if the client stalls. -/
structure Stalling (h : History κ α) (c : Cache κ α) : Prop where
  /-- Every request has a deadline but those to close a handle. It is not at once, and once it is over so is the
      wait. -/
  limited : ∀ i r, c.request? i = some r → (∀ l, r ≠ .close l) →
    ∃ limit, r.limit? c.options = some limit ∧ 0 < limit.nanos ∧ (c.move (.reply i .overdue)).isSome
  /-- Without the client nothing goes on for ever, -/
  finite : ∀ s : Nat → Cache κ α, s 0 = c → ¬∀ n, ∃ m, (s n).Unaided m ∧ (s n).move m = some (s (n + 1))
  /-- and when nothing goes on any more all calls have their answers but those that wait for a handle to be closed,
      which an acquisition never does. -/
  returns : (∀ m, c.Unaided m → c.move m = none) → ∀ i call, h.calls[i]? = some call →
    (∀ x ∈ h, x.move.dropped? ≠ some i) →
    (∃ a, c.answer? i = some a) ∨ (∃ l, c.request? i = some (.close l)) ∧ ∀ config, call ≠ .acquire config
  /-- Whoever waits for a handle to be closed waits on. -/
  stranded : ∀ i l, c.request? i = some (.close l) →
    ∀ h' d, Run c h' d → (∀ x ∈ h', x.before.Unaided x.move) → d.request? i = some (.close l)
  /-- If the client closes handles, and does nothing else, all calls come to their answers. -/
  answered : (∀ m, c.Unaided m ∨ c.Closes m → c.move m = none) → ∀ i call, h.calls[i]? = some call →
    (∀ x ∈ h, x.move.dropped? ≠ some i) → ∃ a, c.answer? i = some a

theorem Run.stranded (run : Run c h d) (unaided : ∀ x ∈ h, x.before.Unaided x.move)
    (asked : c.request? i = some (.close l)) : d.request? i = some (.close l) := by
  induction run with
  | nil => exact asked
  | snoc _ move ih =>
    have earlier := ih fun x hx => unaided x (List.mem_append_left _ hx)
    have last := unaided _ (List.mem_append_right _ (List.mem_singleton_self _))
    exact last.closing_kept move earlier

/-- All calls return without the client but those that wait for a handle to be closed. -/
theorem Run.stalling (new : Cache.ofOptions backend options order = .ok c₀) (run : Run c₀ h c) : Stalling h c := by
  have admitted := run.admitted new
  have phase {i : Nat} {call : Call κ} (hcall : h.calls[i]? = some call) : ∃ p, c.phase? i = some p := by
    obtain ⟨hlt, -⟩ := List.getElem?_eq_some_iff.mp hcall
    exact ⟨_, Cache.phase?_of_task (List.getElem?_eq_getElem (admitted.length.symm ▸ hlt))⟩
  have returns (stuck : ∀ m, c.Unaided m → c.move m = none) {i : Nat} {call : Call κ}
      (hcall : h.calls[i]? = some call) (undropped : ∀ x ∈ h, x.move.dropped? ≠ some i) :
      (∃ a, c.answer? i = some a) ∨ ∃ l, c.request? i = some (.close l) := by
    obtain ⟨p, hp⟩ := phase hcall
    cases ongoing : p.isOver with
    | true => exact Or.inl (run.answered_of_over new undropped hp ongoing)
    | false =>
      rcases (run.orderly new).unaided_or_closing hp ongoing with ⟨m, d, unaided, move⟩ | waits
      · rw [stuck m unaided] at move
        cases move
      · exact Or.inr waits
  refine ⟨fun i r asked open_ => ?_, fun s _ endless => ?_, fun stuck i call hcall undropped => ?_,
    fun i l asked h' d rest unaided => rest.stranded unaided asked, fun stuck i call hcall undropped => ?_⟩
  · obtain ⟨dial, operation⟩ := CacheOptions.pos_of_check (Cache.check_of_new new)
    rw [← run.options_eq new] at dial operation
    cases r with
    | dial | ping => exact ⟨_, rfl, dial, Cache.reply_overdue_of_request? asked rfl⟩
    | operate => exact ⟨_, rfl, operation, Cache.reply_overdue_of_request? asked rfl⟩
    | close l => exact absurd rfl (open_ l)
  · exact Cache.not_endless s fun n =>
      have ⟨m, unaided, move⟩ := endless n
      ⟨m, unaided.worker?_isSome, move⟩
  · rcases returns stuck hcall undropped with answer | ⟨l, asked⟩
    · exact Or.inl answer
    · refine Or.inr ⟨⟨l, asked⟩, ?_⟩
      rintro config rfl
      obtain ⟨p, hp, hr⟩ := Cache.request?_eq_some.mp asked
      exact (admitted.admits i _ p hcall hp).not_closing hr
  · rcases returns (fun m unaided => stuck m (Or.inl unaided)) hcall undropped with answer | ⟨l, asked⟩
    · exact answer
    · have able := Cache.reply_success_of_closing asked
      rw [stuck _ (Or.inr (.intro asked))] at able
      cases able

/-- The client dials one site for one caller, who then invalidates it; it never closes the handle. -/
def Site.unclosed : List (Move Site Nat) :=
  [.start (.acquire ⟨7, .default⟩), .step 0, .step 0, .step 0, .step 0, .step 0, .step 0, .reply 0 .success, .step 0,
   .step 0, .start (.invalidate ⟨[7]⟩), .step 1, .step 1]

theorem Site.unclosed_stalling :
    Cache.ofOptions .keyValue .default .ofInsertion = .ok Site.cache ∧
      Run Site.cache (Site.replay Site.unclosed).1 (Site.replay Site.unclosed).2 ∧
      Stalling (Site.replay Site.unclosed).1 (Site.replay Site.unclosed).2 := by
  have run := Site.run Site.unclosed rfl
  exact ⟨Site.new, run, Run.stalling Site.new run⟩

/-- Each call of the history begins when all calls before it are over. -/
def History.Sequential (h : History κ α) : Prop :=
  ∀ x ∈ h, x.move.call?.isSome = true → ∀ t ∈ x.before.tasks, t.phase.isOver = true

/-- There is one caller, whose second call never returns. -/
theorem Site.unclosed_never_returns :
    let h := (Site.replay Site.unclosed).1
    let c := (Site.replay Site.unclosed).2
    Run Site.cache h c ∧ h.Sequential ∧ h.calls = [.acquire ⟨7, .default⟩, .invalidate ⟨[7]⟩] ∧
      ∀ h' d, Run c h' d → (∀ x ∈ h', x.before.Unaided x.move) → d.answer? 1 = none := by
  intro h c
  refine ⟨Site.run Site.unclosed rfl, ?_, rfl, fun h' d run unaided => ?_⟩
  · unfold History.Sequential
    decide
  · have asked : c.request? 1 = some (.close ⟨1, ⟨[7]⟩, 1⟩) := rfl
    exact Cache.answer?_of_request? (run.stranded unaided asked)

end StoreAccess
