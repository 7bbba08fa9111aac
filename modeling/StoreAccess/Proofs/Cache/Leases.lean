import StoreAccess.Proofs.Cache.Origins

/-! What a lease stands for. Whoever was lent a handle obtained it at one of its own steps, from an entry
    of the fingerprint it had asked for; that handle was dialed for a configuration with this fingerprint
    and with the pool of that configuration. A hit skips the checks, but it only finds what passed them. -/

namespace StoreAccess

variable {κ α : Type} [BackendConfig κ] {backend : BackendKind} {options : CacheOptions} {order : EntryOrder}
  {c₀ c : Cache κ α} {h : History κ α}

/-! ### Where leases come from -/

/-- The outcome of an acquisition goes back to a step of its task that obtained the lease, or to a move
    that refused it. -/
theorem Run.outcome_cases (new : Cache.ofOptions backend options order = .ok c₀) (run : Run c₀ h c) {i : Nat}
    {p : Phase κ α} {o : Except Error Lease} (hp : c.phase? i = some p) (ho : p.outcome? = some o) :
    (∃ l, o = .ok l ∧ ∃ x ∈ h, x.move = .step i ∧ x.lent? = some l) ∨
      (∃ e, o = .error e ∧ ∃ x ∈ h, x.before.Refuses i e x.move) := by
  induction run with
  | nil =>
    rw [Cache.ofOptions_eq_ok new] at hp
    cases hp
  | @snoc h d e m _ move ih =>
    rcases (Cache.does_of_move move).outcome_cases hp ho with hp | ⟨l, hl, hm, hlends⟩ | ⟨err, he, hrefuses⟩
    · rcases ih hp with ⟨l, hl, x, hx, hlent⟩ | ⟨err, he, x, hx, hrefuses⟩
      · exact Or.inl ⟨l, hl, x, List.mem_append_left _ hx, hlent⟩
      · exact Or.inr ⟨err, he, x, List.mem_append_left _ hx, hrefuses⟩
    · subst hm
      exact Or.inl ⟨l, hl, _, List.mem_append_right _ (List.mem_singleton_self _), rfl, hlends⟩
    · exact Or.inr ⟨err, he, _, List.mem_append_right _ (List.mem_singleton_self _), hrefuses⟩

theorem History.dialings_subset {h₁ h₂ : History κ α} {x : Transition κ α} {y : Nat × Entry κ}
    (hy : y ∈ h₁.dialings) : y ∈ History.dialings (h₁ ++ x :: h₂) := by
  rw [History.dialings, List.filterMap_append]
  exact List.mem_append_left _ hy

theorem Run.dialing_of_lent? (new : Cache.ofOptions backend options order = .ok c₀) (run : Run c₀ h c)
    {x : Transition κ α} (hx : x ∈ h) {l : Lease} (hl : x.lent? = some l) :
    ∃ i e, (i, e) ∈ h.dialings ∧ e.lease = l := by
  obtain ⟨h₁, h₂, rfl, before, -, -⟩ := run.upTo hx
  have origins := before.origins new
  obtain ⟨e, rfl, he | ⟨i, why, hp⟩⟩ := Transition.entry_of_lent? hl
  · obtain ⟨i, hi⟩ := origins.cached e he
    exact ⟨i, e, History.dialings_subset hi, rfl⟩
  · exact ⟨i, e, History.dialings_subset ((origins.tasks i _ hp).held e why rfl), rfl⟩

theorem Transition.cached_of_lent? {x : Transition κ α} (move : x.before.move x.move = some x.after)
    {l : Lease} (hl : x.lent? = some l) : l ∈ x.after.cached := by
  obtain ⟨c, m, d⟩ := x
  cases m with
  | start | reply | drop => cases hl
  | step i =>
    have hlends : c.lends? i = some l := hl
    have hit : ∀ {c' : Cache κ α} {f : Fingerprint} {e : Entry κ} {q : Phase κ α}, c'.Enters i q d →
        c'.entries = c.entries → c.entry? f = some e → e.lease = l → l ∈ d.cached := fun enters he hf hl => by
      rw [Cache.cached, enters.entries, he, ← hl]
      exact List.mem_map_of_mem (Cache.entry?_eq_some hf).1
    have does : c.Does (.step i) d := Cache.does_of_move move
    cases does with
    | hit task entry enters => exact hit enters rfl entry (by simpa [Cache.lends?, task, entry] using hlends)
    | share task entry enters => exact hit enters rfl entry (by simpa [Cache.lends?, task, entry] using hlends)
    | @insert _ e _ _ _ task enters =>
      have hl : e.lease = l := by simpa [Cache.lends?, task] using hlends
      rw [← hl, Cache.cached, enters.entries]
      exact List.mem_map_of_mem (Cache.mem_put.mpr (Or.inr rfl))
    | lock task | queue task | remove task | removeNone task | evict task | evictNone task | drain task
      | note task | count task | contain task => simp [Cache.lends?, task] at hlends
    | miss task entry | reject task entry | dial task entry => simp [Cache.lends?, task, entry] at hlends

theorem Cache.answer?_eq_some {i : Nat} {a : CallAnswer α} :
    c.answer? i = some a ↔ c.phase? i = some (.finished a) := by
  simp only [answer?, phase?, Option.bind_eq_bind, Option.bind_eq_some_iff, Option.map_eq_some_iff]
  constructor
  · rintro ⟨t, ht, ha⟩
    refine ⟨t, ht, ?_⟩
    cases hp : t.phase <;> rw [hp] at ha <;> cases ha
    rfl
  · rintro ⟨t, ht, hp⟩
    exact ⟨t, ht, by rw [hp]; rfl⟩

theorem Ledger.handles_nodup (k : Ledger h c) : (h.dialed.map Lease.handle).Nodup := by
  rw [k.handles]
  exact List.nodup_range'

theorem Ledger.dialings_nodup (k : Ledger h c) : (h.dialings.map fun y => y.2.handle).Nodup := by
  have handles := k.handles_nodup
  rwa [History.dialed_eq, List.map_map] at handles

/-! ### The handle of another target -/

/-- A caller never gets the handle of another target: the handle of every lease that `acquire config`
    returned was made by a dial of some configuration with the fingerprint of `config`, which passed the
    checks and went to the client with its own pool. Likewise the entry under a fingerprint is kept with a
    configuration of this fingerprint, from which its handle was dialed. No two dials make one handle. -/
theorem Run.lease_dialed_for_config (new : Cache.ofOptions backend options order = .ok c₀) (run : Run c₀ h c) :
    (∀ i config l, h.calls[i]? = some (.acquire config) → c.answer? i = some (.leased (.ok l)) →
      ∃ x ∈ h, ∃ j e, x.Makes j e ∧ e.lease = l ∧
        BackendConfig.fingerprint e.target.config = BackendConfig.fingerprint config) ∧
    (∀ f e, c.entry? f = some e → BackendConfig.fingerprint e.target.config = f ∧
      BackendConfig.check e.target.config = .ok () ∧
      (BackendConfig.pool e.target.config).check = .ok () ∧ ∃ x ∈ h, ∃ j, x.Makes j e) ∧
    (h.dialings.map fun y => y.2.handle).Nodup := by
  have origins := run.origins new
  refine ⟨fun i config l hcall answer => ?_, fun f e he => ?_, (run.ledger new).dialings_nodup⟩
  · have hp := Cache.answer?_eq_some.mp answer
    -- The call says which fingerprint the lease has; the lending step says which entry it comes from.
    obtain ⟨config', hconfig, hl⟩ := (run.admitted new).admits i _ _ hcall hp
    cases hconfig
    rcases run.outcome_cases new hp rfl with ⟨l', hl', x, hx, -, hlent⟩ | ⟨e, he, -⟩
    · cases hl'
      obtain ⟨j, e, hdialing, rfl⟩ := run.dialing_of_lent? new hx hlent
      obtain ⟨y, hy, hmade⟩ := History.mem_dialings.mp hdialing
      exact ⟨y, hy, j, e, origins.makes y hy j e hmade, rfl, e.target.fingerprint_eq.symm.trans hl⟩
    · cases he
  · obtain ⟨hmem, hf⟩ := Cache.entry?_eq_some he
    obtain ⟨j, hdialing⟩ := origins.cached e hmem
    obtain ⟨y, hy, hmade⟩ := History.mem_dialings.mp hdialing
    have makes := origins.makes y hy j e hmade
    exact ⟨e.target.fingerprint_eq.symm.trans hf, makes.config, makes.pool, y, hy, j, makes⟩

/-- The second of two callers of a site gets the handle that was dialed for the first. -/
theorem Site.shared_lease_dialed :
    Cache.ofOptions .keyValue .default .ofInsertion = .ok Site.cache ∧
    Run Site.cache (Site.replay Site.shared).1 (Site.replay Site.shared).2 ∧
    (∃ x ∈ (Site.replay Site.shared).1, ∃ j e, x.Makes j e ∧ e.lease = ⟨1, ⟨[7]⟩, 1⟩ ∧
      BackendConfig.fingerprint e.target.config =
        BackendConfig.fingerprint (⟨7, ⟨2, 1, .ofSeconds 60⟩⟩ : Site)) ∧
    Cache.entry? (Site.replay Site.shared).2 ⟨[7]⟩ = some ⟨.ofConfig ⟨7, .default⟩, 1, 1⟩ ∧
    ∃ x ∈ (Site.replay Site.shared).1, ∃ j, x.Makes j ⟨.ofConfig ⟨7, .default⟩, 1, 1⟩ :=
  have run := Site.run Site.shared rfl
  have faithful := Run.lease_dialed_for_config Site.new run
  ⟨Site.new, run, faithful.1 1 _ _ rfl rfl, rfl, (faithful.2.1 ⟨[7]⟩ _ rfl).2.2.2⟩

end StoreAccess
