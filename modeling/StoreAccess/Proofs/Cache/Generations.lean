import StoreAccess.Proofs.Cache.Conservation

/-! Generations. They are given out after the dial and before the insert, so entries of different targets
    may go in out of order; but the gate is held until the insert, so those of one target go in in order.
    Hence what is lent after a removal is newer than what was removed, and a lease from before can remove
    nothing that came later. -/

namespace StoreAccess

variable {κ α : Type} [BackendConfig κ] {backend : BackendKind} {options : CacheOptions} {order : EntryOrder}
  {c₀ c d : Cache κ α} {h : History κ α} {i j : Nat} {m : Move κ α}

/-! ### The order of generations -/

/-- Of one target, what goes in is newer than what went in before, and what is held or there is newer than
    what is gone. -/
structure Ordered (h : History κ α) (c : Cache κ α) : Prop where
  inserted : h.inserted.Pairwise fun a b => a.fingerprint = b.fingerprint → a.generation < b.generation
  held : ∀ l ∈ c.held, ∀ a ∈ h.inserted, a.fingerprint = l.fingerprint → a.generation < l.generation
  cached : ∀ l ∈ c.cached, ∀ a ∈ h.removed, a.fingerprint = l.fingerprint → a.generation < l.generation

namespace Ledger

theorem inserted_subset (k : Ledger h c) {l : Lease} (hl : l ∈ h.inserted) : l ∈ h.dialed := by
  rw [← List.count_pos_iff] at hl ⊢
  have dialed := k.dialed l
  omega

theorem removed_subset (k : Ledger h c) {l : Lease} (hl : l ∈ h.removed) : l ∈ h.inserted := by
  rw [← List.count_pos_iff] at hl ⊢
  have inserted := k.inserted l
  omega

theorem inserted_of_cached (k : Ledger h c) {l : Lease} (hl : l ∈ c.cached) : l ∈ h.inserted := by
  rw [← List.count_pos_iff] at hl ⊢
  have inserted := k.inserted l
  omega

theorem removed_of_uncached (k : Ledger h c) {l : Lease} (hl : l ∈ h.inserted) (absent : l ∉ c.cached) :
    l ∈ h.removed := by
  rw [← List.count_pos_iff] at hl ⊢
  have inserted := k.inserted l
  rw [List.count_eq_zero.mpr absent] at inserted
  omega

theorem generation_le (k : Ledger h c) {l : Lease} (hl : l ∈ h.dialed) : l.generation ≤ c.generation := by
  have hmem : l.generation ∈ h.dialed.map Lease.generation := List.mem_map_of_mem hl
  rw [k.generations, List.mem_range'_1] at hmem
  omega

theorem generations_nodup (k : Ledger h c) : (h.dialed.map Lease.generation).Nodup := by
  rw [k.generations]
  exact List.nodup_range'

theorem map_generation_nodup (k : Ledger h c) {ls : List Lease} (once : ∀ l, ls.count l ≤ h.dialed.count l) :
    (ls.map Lease.generation).Nodup := by
  have distinct : ls.Nodup := List.nodup_iff_count_le_one.mpr fun l =>
    Nat.le_trans (once l) (k.count_dialed_le l)
  refine distinct.map_on fun a ha b hb same => ?_
  have dialed : ∀ l ∈ ls, l ∈ h.dialed := fun l hl => by
    rw [← List.count_pos_iff] at hl ⊢
    exact Nat.lt_of_lt_of_le hl (once l)
  exact List.inj_on_of_nodup_map k.generations_nodup (dialed a ha) (dialed b hb) same

theorem inserted_nodup (k : Ledger h c) : h.inserted.Nodup :=
  (k.map_generation_nodup fun l => by have dialed := k.dialed l; omega).of_map

theorem eq_of_generation (k : Ledger h c) {a b : Lease} (ha : a ∈ h.inserted) (hb : b ∈ h.inserted)
    (same : a.generation = b.generation) : a = b :=
  List.inj_on_of_nodup_map k.generations_nodup (k.inserted_subset ha) (k.inserted_subset hb) same

end Ledger

/-- What a task holds, or puts in, it held before or has just dialed. -/
theorem Transition.Flow.held_or_dialed {x : Transition κ α} (flow : x.Flow) {l : Lease}
    (hl : l ∈ x.after.held ∨ l ∈ x.inserted) : l ∈ x.before.held ∨ l ∈ x.dialed := by
  have held := flow.held l
  simp only [← List.count_pos_iff] at hl ⊢
  omega

theorem Cache.Gated.uncached_of_held (g : Gated c) {l a : Lease} (hl : l ∈ c.held)
    (same : a.fingerprint = l.fingerprint) : a ∉ c.cached := fun ha => by
  obtain ⟨k, p, hk, hmem⟩ := mem_inHand.mp hl
  obtain ⟨e, he, rfl⟩ := List.mem_map.mp ha
  cases p with
  | inserting e' why =>
    obtain ⟨lock, task⟩ := phase?_eq_some.mp hk
    cases List.mem_singleton.mp hmem
    exact g.absent k _ _ task rfl e he same
  | _ => cases hmem

namespace Ordered

theorem snoc (o : Ordered h c) (k : Ledger h c) (move : c.move m = some d) :
    Ordered (h ++ [⟨c, m, d⟩]) d := by
  have flow := Transition.flow_of_move k.gated move
  have g := k.gated.move move
  -- What is held or was just dialed is newer than all that went in before.
  have newer : ∀ l, l ∈ c.held ∨ l ∈ (Transition.mk c m d).dialed → ∀ a ∈ h.inserted,
      a.fingerprint = l.fingerprint → a.generation < l.generation := by
    rintro l (hl | hl) a ha same
    · exact o.held l hl a ha same
    · have bound := k.generation_le (k.inserted_subset ha)
      rcases Transition.dialed_cases move with ⟨hnil, -⟩ | ⟨i, target, why, -, hdialing, -⟩
      · rw [hnil] at hl
        cases hl
      · simp only [Transition.dialed, hdialing, Option.map_some, Option.toList_some,
          List.mem_singleton] at hl
        subst hl
        exact Nat.lt_succ_of_le bound
  refine ⟨?_, fun l hl a ha same => ?_, fun l hl a ha same => ?_⟩
  · rw [History.inserted_snoc, List.pairwise_append]
    refine ⟨o.inserted, ?_, fun a ha l hl => newer l (flow.held_or_dialed (Or.inr hl)) a ha⟩
    rcases Transition.cached_cases k.gated move with hsub | ⟨l, hcached, hfresh⟩
    · rw [Transition.inserted_of_subset hsub]
      exact List.Pairwise.nil
    · rw [Transition.inserted_of_append hcached fun hl => hfresh l hl rfl]
      exact List.pairwise_singleton _ _
  · rw [History.inserted_snoc, List.mem_append] at ha
    rcases ha with ha | ha
    · exact newer l (flow.held_or_dialed (Or.inl hl)) a ha same
    · exact absurd (List.mem_filter.mp ha).1 (g.uncached_of_held hl same)
  · rw [History.removed_snoc, List.mem_append] at ha
    rcases Transition.cached_cases k.gated move with hsub | ⟨l', hcached, hfresh⟩
    · rcases ha with ha | ha
      · exact o.cached l (hsub l hl) a ha same
      · -- Only one entry of the target was there.
        obtain ⟨ha, hgone⟩ := List.mem_filter.mp ha
        have only : a = l := k.gated.cached_unique ha (hsub l hl) same
        rw [only] at hgone
        simp [hl] at hgone
    · rw [Transition.removed_of_append hcached] at ha
      simp only [List.not_mem_nil, or_false] at ha
      rw [hcached, List.mem_append, List.mem_singleton] at hl
      rcases hl with hl | rfl
      · exact o.cached l hl a ha same
      · have hins : l ∈ (Transition.mk c m d).inserted := by
          rw [Transition.inserted_of_append hcached fun hl => hfresh l hl rfl]
          exact List.mem_singleton_self l
        exact newer l (flow.held_or_dialed (Or.inr hins)) a (k.removed_subset ha) same

end Ordered

theorem Run.ordered (new : Cache.ofOptions backend options order = .ok c₀) (run : Run c₀ h c) : Ordered h c := by
  induction run with
  | nil =>
    rw [Cache.ofOptions_eq_ok new]
    refine ⟨List.Pairwise.nil, fun l hl => ?_, fun l hl => ?_⟩
    · cases hl
    · cases hl
  | snoc run move ih => exact ih.snoc (run.ledger new) move

/-! ### Who removes an entry -/

/-- A task in this phase may remove the entry of the lease. -/
def Phase.Removes (l : Lease) : Phase κ α → Prop
  | removing f => l.fingerprint = f
  | removingLease lease _ => l.fingerprint = lease.fingerprint ∧ l.generation = lease.generation
  | draining => True
  | _ => False

theorem Transition.removed_cases (g : c.Gated) (move : c.move m = some d) {l : Lease}
    (hl : l ∈ (Transition.mk c m d).removed) : ∃ i p, m = .step i ∧ c.phase? i = some p ∧ p.Removes l := by
  have pass : ∀ {P : Prop}, d.cached = c.cached → P := fun same => by
    rw [removed_of_eq same] at hl
    cases hl
  have erased : ∀ {f : Fingerprint} {e : Entry κ}, d.cached = (c.erase f).cached → c.entry? f = some e →
      l = e.lease := fun {f e} hd entry => by
    rw [removed_of_entry g entry hd] at hl
    exact List.mem_singleton.mp hl
  have does := Cache.does_of_move move
  cases does with
  | start | lock => exact pass rfl
  | hit _ _ enters | miss _ _ enters | share _ _ enters | reject _ _ _ enters | dial _ _ _ enters
    | removeNone _ _ enters | evictNone _ _ enters | undialed _ _ enters | failed _ _ enters
    | unpinged _ _ enters | closed _ _ enters | drop _ _ enters => exact pass enters.cached_eq
  | queue _ enters | note _ _ enters | count _ enters | contain _ enters | dialed _ enters
    | operated _ enters | pinged _ enters => exact pass enters.cached_eq
  | insert task enters =>
    have hcached := enters.cached_eq.trans (cached_put (g.absent _ _ _ task rfl))
    rw [removed_of_append hcached] at hl
    cases hl
  | remove task entry enters =>
    have only := erased enters.cached_eq entry
    exact ⟨_, _, rfl, Cache.phase?_of_task task, only ▸ (Cache.entry?_eq_some entry).2⟩
  | evict task entry same enters =>
    have only := erased enters.cached_eq entry
    exact ⟨_, _, rfl, Cache.phase?_of_task task, only ▸ ⟨(Cache.entry?_eq_some entry).2, same⟩⟩
  | drain task => exact ⟨_, _, rfl, Cache.phase?_of_task task, trivial⟩

/-- A task that is to remove the entry of a lease removes this one or none. -/
theorem Run.removed_of_lease (new : Cache.ofOptions backend options order = .ok c₀) (run : Run c₀ h c)
    {x : Transition κ α} (hx : x ∈ h) {l a : Lease} {why : Aftermath κ} (hm : x.move = .step i)
    (hp : x.before.phase? i = some (.removingLease l why)) (ha : a ∈ x.removed) :
    a.fingerprint = l.fingerprint ∧ a.generation = l.generation := by
  obtain ⟨h₁, h₂, -, before, move, -⟩ := run.upTo hx
  obtain ⟨j, p, hm', hp', removes⟩ := Transition.removed_cases (before.ledger new).gated move ha
  rw [hm] at hm'
  cases hm'
  rw [hp] at hp'
  cases hp'
  exact removes

/-- A call that invalidates a lease removes the entry of this lease or none. -/
theorem Run.stale_lease (new : Cache.ofOptions backend options order = .ok c₀) (run : Run c₀ h c)
    {x : Transition κ α} (hx : x ∈ h) {l a : Lease} (hcall : h.calls[i]? = some (.invalidateLease l))
    (worker : x.move.worker? = some i) (ha : a ∈ x.removed) :
    a.fingerprint = l.fingerprint ∧ a.generation = l.generation := by
  obtain ⟨h₁, h₂, hh, before, move, -⟩ := run.upTo hx
  obtain ⟨j, p, hm, hp, removes⟩ := Transition.removed_cases (before.ledger new).gated move ha
  have same : j = i := by
    rw [hm] at worker
    exact Option.some.inj worker
  subst same
  have admits := run.admits_before new hx hcall hp
  cases p with
  | removingLease lease why =>
    cases why with
    | caller =>
      cases admits
      exact removes
    | attempt =>
      obtain ⟨_, hcall, -⟩ := admits
      cases hcall
    | probe => cases admits
    | clear => exact False.elim admits
  | removing => cases admits
  | draining => cases admits
  | _ => exact False.elim removes

/-! ### Acquiring anew -/

theorem Cache.task_of_move (move : c.move m = some d) (worker : m.worker? = some i) :
    i < c.tasks.length := by
  have found : ∃ t, c.tasks[i]? = some t := by
    cases m with
    | start | drop => cases worker
    | step =>
      cases worker
      simp only [Cache.move, step, Option.bind_eq_bind, Option.bind_eq_some_iff] at move
      obtain ⟨t, ht, -⟩ := move
      exact ⟨t, ht⟩
    | reply =>
      cases worker
      simp only [Cache.move, reply, Option.bind_eq_bind, Option.bind_eq_some_iff] at move
      obtain ⟨t, ht, -⟩ := move
      exact ⟨t, ht⟩
  obtain ⟨t, ht⟩ := found
  obtain ⟨hlt, -⟩ := List.getElem?_eq_some_iff.mp ht
  exact hlt

theorem Run.later_of_call (new : Cache.ofOptions backend options order = .ok c₀) {h₁ h₂ : History κ α}
    (run : Run c₀ (h₁ ++ h₂) c) (later : h₁.calls.length ≤ i) {x : Transition κ α} (hx : x ∈ h₁ ++ h₂)
    (worker : x.move.worker? = some i) : x ∈ h₂ := by
  rcases List.mem_append.mp hx with hx | hx
  · exfalso
    obtain ⟨a, b, rfl⟩ := List.append_of_mem hx
    rw [List.append_assoc, List.cons_append] at run
    obtain ⟨before, move, -⟩ := run.split
    have hlt := Cache.task_of_move move worker
    rw [(before.admitted new).length] at hlt
    rw [History.calls_append, List.length_append] at later
    omega
  · exact hx

theorem Run.newer_of_lent? (new : Cache.ofOptions backend options order = .ok c₀) {h₁ h₂ : History κ α}
    (run : Run c₀ (h₁ ++ h₂) c) {l l' : Lease} (gone : l ∈ h₁.removed) {y : Transition κ α}
    (hy : y ∈ h₂) (lent : y.lent? = some l') (same : l.fingerprint = l'.fingerprint) :
    l.generation < l'.generation := by
  obtain ⟨a, b, rfl⟩ := List.append_of_mem hy
  rw [← List.append_assoc] at run
  obtain ⟨before, move, -⟩ := run.split
  have ordered : Ordered (h₁ ++ a ++ [y]) y.after := (before.snoc move).ordered new
  refine ordered.cached l' (Transition.cached_of_lent? move lent) l ?_ same
  rw [History.removed, List.append_assoc, List.flatMap_append]
  exact List.mem_append_left _ gone

/-! ### Handles on loan are open -/

namespace Ledger

theorem unclosed (k : Ledger h c) {l : Lease} (dialed : l ∈ h.dialed) (kept : h.removed.count l = 0) :
    l.handle ∉ c.closeCalls.map Lease.handle := fun hmem => by
  obtain ⟨a, ha, same⟩ := List.mem_map.mp hmem
  have called := k.closeCalls_le_removed a
  have closed := List.count_pos_iff.mpr ha
  have removed : a ∈ h.removed := List.count_pos_iff.mp (by omega)
  have only : a = l :=
    List.inj_on_of_nodup_map k.handles_nodup (k.inserted_subset (k.removed_subset removed)) dialed same
  rw [only] at removed
  exact List.count_eq_zero.mp kept removed

theorem unclosed_of_cached (k : Ledger h c) {l : Lease} (hl : l ∈ c.cached) :
    l.handle ∉ c.closeCalls.map Lease.handle :=
  k.unclosed (k.inserted_subset (k.inserted_of_cached hl)) (k.removed_of_cached hl)

theorem unclosed_of_held (k : Ledger h c) {l : Lease} (hl : l ∈ c.held) :
    l.handle ∉ c.closeCalls.map Lease.handle := by
  rw [← List.count_pos_iff] at hl
  have dialed := k.dialed l
  have inserted := k.inserted l
  have once := k.count_dialed_le l
  exact k.unclosed (List.count_pos_iff.mp (by omega)) (by omega)

end Ledger

/-- A handle is open when it is lent, and still so afterwards. -/
theorem Run.unclosed_of_lent? (new : Cache.ofOptions backend options order = .ok c₀) (run : Run c₀ h c)
    {x : Transition κ α} (hx : x ∈ h) {l : Lease} (lent : x.lent? = some l) :
    l.handle ∉ x.before.closeCalls.map Lease.handle ∧ l.handle ∉ x.after.closeCalls.map Lease.handle := by
  obtain ⟨h₁, h₂, rfl, before, move, -⟩ := run.upTo hx
  have after : Ledger (h₁ ++ [x]) x.after := (before.snoc move).ledger new
  refine ⟨?_, after.unclosed_of_cached (Transition.cached_of_lent? move lent)⟩
  obtain ⟨e, rfl, he | ⟨i, why, hp⟩⟩ := Transition.entry_of_lent? lent
  · exact (before.ledger new).unclosed_of_cached (List.mem_map_of_mem he)
  · exact (before.ledger new).unclosed_of_held (Cache.mem_inHand.mpr ⟨i, _, hp, List.mem_singleton_self _⟩)

/-! ### Generations and leases -/

/-- What generations promise of leases. -/
structure Renewed (h : History κ α) (c : Cache κ α) : Prop where
  /-- No two entries have one generation. -/
  distinct : (h.inserted.map Lease.generation).Nodup
  /-- Of one target, entries go in in the order of their generations. -/
  increasing : h.inserted.Pairwise fun a b => a.fingerprint = b.fingerprint → a.generation < b.generation
  /-- The client was not told to close a handle that is just lent. -/
  unclosed : ∀ x ∈ h, ∀ l, x.lent? = some l → l.handle ∉ x.before.closeCalls.map Lease.handle ∧
    l.handle ∉ x.after.closeCalls.map Lease.handle
  /-- Whoever was answered with a lease was lent it at one of its steps. -/
  lent : ∀ i l, c.answer? i = some (.leased (.ok l)) → ∃ x ∈ h, x.move = .step i ∧ x.lent? = some l
  /-- Once an entry was removed, whoever is lent its target is lent a newer one. -/
  later : ∀ h₁ x h₂ l, h = h₁ ++ x :: h₂ → l ∈ x.removed → ∀ y ∈ h₂, ∀ l', y.lent? = some l' →
    l.fingerprint = l'.fingerprint → l.generation < l'.generation
  /-- An acquisition that begins once an entry was removed yields an error or a newer lease. -/
  newer : ∀ h₁ x h₂ l, h = h₁ ++ x :: h₂ → l ∈ x.removed → ∀ i config a,
    (History.calls (h₁ ++ [x])).length ≤ i → h.calls[i]? = some (.acquire config) →
    BackendConfig.fingerprint config = l.fingerprint → c.answer? i = some a →
    (∃ e, a = .leased (.error e)) ∨ ∃ l', a = .leased (.ok l') ∧ l.generation < l'.generation
  /-- Whoever invalidates a lease removes at most the entry of its generation. -/
  stale : ∀ x ∈ h, ∀ i l, h.calls[i]? = some (.invalidateLease l) → x.move.worker? = some i →
    ∀ a ∈ x.removed, a.fingerprint = l.fingerprint ∧ a.generation = l.generation
  /-- So does whoever does it in the course of another call. -/
  within : ∀ x ∈ h, ∀ i l why, x.before.phase? i = some (.removingLease l why) → x.move = .step i →
    ∀ a ∈ x.removed, a.fingerprint = l.fingerprint ∧ a.generation = l.generation
  /-- And no generation is removed twice. -/
  once : (h.removed.map Lease.generation).Nodup

/-- In every state that calls can reach which run side by side, generations are distinct and, for each
    target, given in order; a lease is lent only while its handle is open; after a removal only newer
    leases are lent; and who invalidates a lease does nothing to a later entry. -/
theorem Run.leases_renewed (new : Cache.ofOptions backend options order = .ok c₀) (run : Run c₀ h c) :
    Renewed h c := by
  have k := run.ledger new
  have lent : ∀ i l, c.answer? i = some (.leased (.ok l)) → ∃ x ∈ h, x.move = .step i ∧ x.lent? = some l := by
    intro i l answer
    rcases run.outcome_cases new (Cache.answer?_eq_some.mp answer) rfl with ⟨l', hl, hx⟩ | ⟨e, he, -⟩
    · cases hl
      exact hx
    · cases he
  have later : ∀ h₁ x h₂ l, h = h₁ ++ x :: h₂ → l ∈ x.removed → ∀ y ∈ h₂, ∀ l', y.lent? = some l' →
      l.fingerprint = l'.fingerprint → l.generation < l'.generation := by
    intro h₁ x h₂ l hh gone y hy l' hlent same
    have hsplit : h = (h₁ ++ [x]) ++ h₂ := by simp [hh]
    subst hsplit
    refine run.newer_of_lent? new ?_ hy hlent same
    rw [History.removed_snoc]
    exact List.mem_append_right _ gone
  refine ⟨k.map_generation_nodup fun l => ?_, (run.ordered new).inserted,
    fun x hx l hl => run.unclosed_of_lent? new hx hl, lent, later,
    fun h₁ x h₂ l hh gone i config a began hcall same answer => ?_,
    fun x hx i l hcall worker a ha => run.stale_lease new hx hcall worker ha,
    fun x hx i l why hp hm a ha => run.removed_of_lease new hx hm hp ha,
    k.map_generation_nodup fun l => ?_⟩
  · have dialed := k.dialed l
    omega
  · have answers : (Call.acquire config).Answers a :=
      (run.admitted new).admits i _ _ hcall (Cache.answer?_eq_some.mp answer)
    obtain ⟨o, rfl, hl⟩ := answers.leased
    cases o with
    | error e => exact Or.inl ⟨e, rfl⟩
    | ok l' =>
      obtain ⟨y, hy, hm, hlent⟩ := lent i l' answer
      -- The call began after the removal, so its lease was lent after it.
      have hsplit : h = (h₁ ++ [x]) ++ h₂ := by simp [hh]
      have after : y ∈ h₂ := by
        subst hsplit
        exact run.later_of_call new began hy (by rw [hm]; rfl)
      exact Or.inr ⟨l', rfl, later h₁ x h₂ l hh gone y after l' hlent (same.symm.trans (hl l' rfl).symm)⟩
  · have dialed := k.dialed l
    have inserted := k.inserted l
    omega

/-- The lease of the evicted handle is invalidated after the site was dialed again. -/
def Site.stale : List (Move Site Nat) :=
  Site.redialed ++ [.start (.invalidateLease ⟨1, ⟨[7]⟩, 1⟩), .step 4, .step 4]

theorem Site.stale_lease_renewed :
    Cache.ofOptions .keyValue .default .ofInsertion = .ok Site.cache ∧
    Run Site.cache (Site.replay Site.stale).1 (Site.replay Site.stale).2 ∧
    Renewed (Site.replay Site.stale).1 (Site.replay Site.stale).2 ∧
    (Site.replay Site.stale).1.removed = [⟨1, ⟨[7]⟩, 1⟩] ∧
    (Site.replay Site.stale).2.cached = [⟨2, ⟨[7]⟩, 2⟩] ∧
    ∃ l', CallAnswer.leased (.ok ⟨2, ⟨[7]⟩, 2⟩) = (.leased (.ok l') : CallAnswer Nat) ∧
      1 < l'.generation := by
  have run := Site.run Site.stale rfl
  have renewed := Run.leases_renewed Site.new run
  have removal : (Site.replay Site.stale).1 = (Site.replay Site.stale).1.take 19 ++
      (Site.replay Site.stale).1.get ⟨19, by decide +kernel⟩ :: (Site.replay Site.stale).1.drop 20 := by
    rw [List.get_eq_getElem, ← List.drop_eq_getElem_cons, List.take_append_drop]
  have newer := renewed.newer _ _ _ ⟨1, ⟨[7]⟩, 1⟩ removal (by decide +kernel) 3 ⟨7, .default⟩
    (.leased (.ok ⟨2, ⟨[7]⟩, 2⟩)) (by decide +kernel) rfl rfl rfl
  exact ⟨Site.new, run, renewed, rfl, rfl, newer.resolve_left fun ⟨_, he⟩ => by cases he⟩

end StoreAccess
