import StoreAccess.Proofs.Cache.Grounds

/-! Why an acquisition fails. The checks of its configuration are made behind the gate, before the dial; where they
    pass, the dial is the next step, and what the caller is told comes from the dial alone: an error of dialing, or
    an error of the configuration that the client reported itself. -/

namespace StoreAccess

variable {κ : Type} [BackendConfig κ] {options : CacheOptions} {config : κ}

/-! ### Errors of a dial -/

namespace Cache

variable {α : Type} {c : Cache κ α} {i : Nat}

/-- An error of a dial is told as one of dialing, unless the client reports one of the configuration. -/
theorem category_asDialError (c : Cache κ α) (e : Error) :
    (c.asDialError e).category = .dial ∨ c.asDialError e = e ∧ e.category = .configuration := by
  cases e with
  | configuration => exact Or.inr ⟨rfl, rfl⟩
  | _ => exact Or.inl rfl

/-- Behind its gate, where there is no entry, a task dials a target that passes its checks. -/
theorem dials_of_absent {target : Target κ} {why : Purpose κ} {l : Lock}
    (task : c.tasks[i]? = some ⟨.rechecking target why, some l⟩) (absent : c.entry? target.fingerprint = none)
    (check : target.check = .ok ()) : ∃ d, c.step i = some d ∧ c.Enters i (.dialing target why) d := by
  refine ⟨_, ?_, (enters_goto (c.log (Notice.dialing c.backend target.fingerprint target.pool)) i
    (.dialing target why)).log⟩
  simp [step, work, task, Phase.lock?, absent, check]

end Cache

/-! ### Configurations that pass their checks -/

theorem Target.check_ofConfig (sound : BackendConfig.check config = .ok ())
    (fits : (BackendConfig.pool config).check = .ok ()) : (Target.ofConfig config).check = .ok () := by
  have pool : (Target.ofConfig config).pool.check = .ok () := fits
  rw [check, show (Target.ofConfig config).config = config from rfl, sound]
  exact pool

section
variable {α : Type} {backend : BackendKind} {order : EntryOrder} {c₀ c : Cache κ α} {h : History κ α} {i : Nat}

theorem Run.dials (new : Cache.ofOptions backend options order = .ok c₀) (run : Run c₀ h c)
    (hcall : h.calls[i]? = some (.acquire config)) (check : (Target.ofConfig config).check = .ok ())
    {target : Target κ} {why : Purpose κ} {l : Lock} (task : c.tasks[i]? = some ⟨.rechecking target why, some l⟩)
    (absent : c.entry? (BackendConfig.fingerprint config) = none) :
    ∃ d, c.step i = some d ∧ d.requests = c.requests ++ [(i, .dial config (BackendConfig.pool config))] := by
  have acquires := (run.admitted new).admits i _ _ hcall (Cache.phase?_of_task task)
  obtain rfl := acquires.target_eq
  obtain ⟨d, step, enters⟩ := Cache.dials_of_absent task absent check
  exact ⟨d, step, enters.requests⟩

/-- An acquisition that fails has dialed, and was told what came of the dial. -/
theorem Run.undialed (new : Cache.ofOptions backend options order = .ok c₀) (run : Run c₀ h c)
    (hcall : h.calls[i]? = some (.acquire config)) (check : (Target.ofConfig config).check = .ok ()) {e : Error}
    (answer : c.answer? i = some (.leased (.error e))) :
    ∃ x ∈ h, ∃ r, x.exchange? i = some (.dial config (BackendConfig.pool config), r) ∧
      (e.category = .dial ∨ e.category = .configuration ∧ r = .failure e) := by
  rcases run.outcome_cases new (Cache.answer?_eq_some.mp answer) rfl with ⟨l, lent, -⟩ | ⟨e', same, x, hx, refuses⟩
  · cases lent
  · cases same
    obtain ⟨before, move, after⟩ := x
    cases refuses with
    | rejected task rejected =>
      -- The only other way to fail is a check, and they pass.
      have acquires := run.admits_before new hx hcall (Cache.phase?_of_task task)
      rw [acquires.target_eq, check] at rejected
      cases rejected
    | @undialed target why l r e task failed =>
      have acquires := run.admits_before new hx hcall (Cache.phase?_of_task task)
      obtain rfl := acquires.target_eq
      refine ⟨_, hx, r, Transition.exchange?_of_reply task rfl, ?_⟩
      rcases before.category_asDialError e with dial | ⟨same, configuration⟩
      · exact Or.inl dial
      · rcases failed with rfl | ⟨-, overdue⟩
        · exact Or.inr ⟨by rw [same, configuration], by rw [same]⟩
        · rw [overdue] at configuration
          cases configuration

theorem Run.exists_dialing (new : Cache.ofOptions backend options order = .ok c₀)
    (check : (Target.ofConfig config).check = .ok ()) :
    ∃ (h : History κ α) (c : Cache κ α), Run c₀ h c ∧ c.backend = c₀.backend ∧
      h.map Transition.move = .start (.acquire config) :: List.replicate 6 (.step 0) ∧
      c.tasks = [⟨.dialing (Target.ofConfig config) .caller, none⟩] := by
  obtain rfl := Cache.ofOptions_eq_ok new
  let target := Target.ofConfig config
  -- The moves compute up to the gate. There fingerprints are compared, and those do not.
  obtain ⟨h, c, replay, kind, moves, entries, gates, tasks⟩ : ∃ (h : History κ α) (c : Cache κ α),
      Cache.replay ⟨backend, options, order, [], [], 0, .zero, [], []⟩
        (.start (.acquire config) :: List.replicate 4 (.step 0)) = some (h, c) ∧ c.backend = backend ∧
      h.map Transition.move = .start (.acquire config) :: List.replicate 4 (.step 0) ∧ c.entries = [] ∧
      c.gates = [(target.fingerprint, 0)] ∧ c.tasks = [⟨.rechecking target .caller, none⟩] :=
    ⟨_, _, rfl, rfl, rfl, rfl, rfl, rfl⟩
  have passed : c.passed 0 (.rechecking target .caller) = true := by
    simp [Cache.passed, Phase.gate?, Cache.first?, gates]
  have locks : c.move (.step 0) = some { c with tasks := [⟨.rechecking target .caller, some .readEntries⟩] } := by
    simp [Cache.move, Cache.step, tasks, Phase.lock?, passed, Cache.lockFree]
  have absent : c.entry? target.fingerprint = none := by rw [Cache.entry?, entries, List.find?_nil]
  obtain ⟨d, dials, enters⟩ := Cache.dials_of_absent (i := 0)
    (c := { c with tasks := [⟨.rechecking target .caller, some .readEntries⟩] }) rfl absent check
  refine ⟨_, d, ((Run.of_replay replay).snoc locks).snoc (m := .step 0) dials, enters.backend.trans kind, ?_,
    enters.tasks⟩
  rw [List.map_append, List.map_append, moves]
  rfl

/-- Whatever error a client reports on a dial, there is an acquisition that is told of it. -/
theorem Run.exists_undialed (new : Cache.ofOptions backend options order = .ok c₀)
    (check : (Target.ofConfig config).check = .ok ()) (e : Error) :
    ∃ h c, Run c₀ h c ∧ h.calls = [.acquire config] ∧
      (∀ x ∈ h, ∀ j y, x.exchange? j = some y → y = (.dial config (BackendConfig.pool config), .failure e)) ∧
      c.answer? 0 = some (.leased (.error (c₀.asDialError e))) := by
  obtain ⟨h, c, run, kind, moves, tasks⟩ := Run.exists_dialing (α := α) new check
  let target := Target.ofConfig config
  have told : c.move (.reply 0 (.failure e)) = some (c.dialFailed 0 target .caller e) := by
    rw [Cache.move, Cache.reply, tasks]
    rfl
  refine ⟨_, _, run.snoc told, ?_, ?_, ?_⟩
  · have calls : h.calls = (h.map Transition.move).filterMap Move.call? := by
      rw [History.calls, List.filterMap_map]
      rfl
    rw [History.calls_append, calls, moves]
    rfl
  · rintro x hx j ⟨request, r⟩ ends
    obtain ⟨replied, asked⟩ := Transition.exchange?_eq_some ends
    rcases List.mem_append.mp hx with before | last
    · have move : x.move ∈ h.map Transition.move := List.mem_map_of_mem before
      rw [moves, replied] at move
      simp at move
    · obtain rfl := List.mem_singleton.mp last
      cases replied
      rw [Cache.request?, Cache.phase?, tasks] at asked
      cases asked
      rfl
  · have same : c.asDialError e = c₀.asDialError e := by
      cases e <;> simp only [Cache.asDialError, kind]
    have enters := c.enters_dialFailed 0 target .caller e
    have finished : (c.dialFailed 0 target .caller e).tasks[0]? =
        some ⟨.finished (.leased (.error (c₀.asDialError e))), none⟩ := by
      rw [enters.tasks, same, show (c.leave 0).tasks = c.tasks from rfl, tasks]
      rfl
    rw [Cache.answer?, finished]
    rfl

end

/-- Whoever acquires the configuration from a cache with these options gets as far as the client, and fails only by
    what the client does. -/
structure Dialable (options : CacheOptions) (config : κ) : Prop where
  /-- There is a new cache with the options. -/
  built : ∀ (α : Type) (backend : BackendKind) (order : EntryOrder),
    ∃ c₀ : Cache κ α, Cache.ofOptions backend options order = .ok c₀
  /-- Behind the gate, where there is no entry, the next step asks the client to dial. -/
  dials : ∀ {α : Type} {backend : BackendKind} {order : EntryOrder} {c₀ c : Cache κ α} {h : History κ α},
    Cache.ofOptions backend options order = .ok c₀ → Run c₀ h c →
    ∀ {i : Nat} {target : Target κ} {why : Purpose κ} {l : Lock},
      h.calls[i]? = some (.acquire config) → c.tasks[i]? = some ⟨.rechecking target why, some l⟩ →
      c.entry? (BackendConfig.fingerprint config) = none →
      ∃ d, c.step i = some d ∧ d.requests = c.requests ++ [(i, .dial config (BackendConfig.pool config))]
  /-- An acquisition fails with an error of dialing, or of the configuration if this is what the client reported. -/
  fails : ∀ {α : Type} {backend : BackendKind} {order : EntryOrder} {c₀ c : Cache κ α} {h : History κ α},
    Cache.ofOptions backend options order = .ok c₀ → Run c₀ h c → ∀ {i : Nat} {e : Error},
      h.calls[i]? = some (.acquire config) → c.answer? i = some (.leased (.error e)) →
      ∃ x ∈ h, ∃ r, x.exchange? i = some (.dial config (BackendConfig.pool config), r) ∧
        (e.category = .dial ∨ e.category = .configuration ∧ r = .failure e)

theorem dialable_of_checks (positive : options.check = .ok ()) (sound : BackendConfig.check config = .ok ())
    (fits : (BackendConfig.pool config).check = .ok ()) : Dialable options config where
  built α backend order := ⟨_, by rw [Cache.ofOptions, positive]; rfl⟩
  dials new run _ _ _ _ hcall task absent := run.dials new hcall (Target.check_ofConfig sound fits) task absent
  fails new run _ _ hcall answer := run.undialed new hcall (Target.check_ofConfig sound fits) answer

end StoreAccess
