import StoreAccess.Proofs.Cache.Effects

/-! The gates of a cache. A task that dials a target or puts an entry in is the first at the gate of the
    target, and there is no entry of that target meanwhile. So no two tasks do this for one target at
    once, and no entry is put in the place of another. -/

namespace StoreAccess

/-- The task is past its gate: it dials, puts an entry in or looks for one under a lock. -/
def Task.Passed {κ α : Type} [BackendConfig κ] (t : Task κ α) : Prop :=
  t.lock.isSome ∨ t.phase.fills?.isSome

theorem Phase.gate?_of_fills? {κ α : Type} [BackendConfig κ] {p : Phase κ α} {f : Fingerprint}
    (h : p.fills? = some f) : p.gate? = some f := by
  cases p <;> first | exact h | cases h

namespace Cache

variable {κ α : Type} [BackendConfig κ] {c c' d : Cache κ α} {i j : Nat} {f f' : Fingerprint}

/-! ### Tasks -/

theorem Enters.task_cases {q : Phase κ α} {t : Task κ α} (h : c'.Enters i q d) (hc : c'.tasks = c.tasks)
    (ht : d.tasks[j]? = some t) : (j = i ∧ t = ⟨q, none⟩) ∨ (j ≠ i ∧ c.tasks[j]? = some t) := by
  rw [h.tasks, hc] at ht
  exact set_cases ht

theorem start_task_cases {call : Call κ} {t : Task κ α} (ht : (c.start call).tasks[j]? = some t) :
    c.tasks[j]? = some t ∨ (j = c.tasks.length ∧ t = ⟨.ofCall call, none⟩) := by
  rw [show (c.start call).tasks = c.tasks ++ [⟨.ofCall call, none⟩] from rfl, List.getElem?_append] at ht
  split at ht
  · exact Or.inl ht
  · rw [List.getElem?_singleton] at ht
    split at ht <;> cases ht
    exact Or.inr ⟨by omega, rfl⟩

theorem phase?_of_task {p : Phase κ α} {l : Option Lock} (ht : c.tasks[i]? = some ⟨p, l⟩) :
    c.phase? i = some p := phase?_eq_some.mpr ⟨l, ht⟩

theorem Enters.phase?_eq {p q : Phase κ α} {l : Option Lock} (h : c'.Enters i q d)
    (hc : c'.tasks = c.tasks) (ht : c.tasks[i]? = some ⟨p, l⟩) : d.phase? i = some q := by
  obtain ⟨hi, -⟩ := List.getElem?_eq_some_iff.mp ht
  simp [phase?, h.tasks, hc, hi]

theorem Enters.phase_cases {q p : Phase κ α} (h : c'.Enters i q d) (hc : c'.tasks = c.tasks)
    (hp : d.phase? j = some p) : (j = i ∧ p = q) ∨ (j ≠ i ∧ c.phase? j = some p) := by
  obtain ⟨l, ht⟩ := phase?_eq_some.mp hp
  rcases h.task_cases hc ht with ⟨hj, ht⟩ | ⟨hj, ht⟩
  · cases ht
    exact Or.inl ⟨hj, rfl⟩
  · exact Or.inr ⟨hj, phase?_eq_some.mpr ⟨l, ht⟩⟩

theorem start_phase_cases {call : Call κ} {p : Phase κ α} (hp : (c.start call).phase? j = some p) :
    c.phase? j = some p ∨ (j = c.tasks.length ∧ p = .ofCall call) := by
  obtain ⟨l, ht⟩ := phase?_eq_some.mp hp
  rcases start_task_cases ht with ht | ⟨hj, ht⟩
  · exact Or.inl (phase?_eq_some.mpr ⟨l, ht⟩)
  · cases ht
    exact Or.inr ⟨hj, rfl⟩

theorem lock_phase? {p : Phase κ α} {l : Lock} (ht : c.tasks[i]? = some ⟨p, none⟩) :
    Cache.phase? { c with tasks := c.tasks.set i ⟨p, some l⟩ } j = c.phase? j := by
  obtain ⟨hi, hget⟩ := List.getElem?_eq_some_iff.mp ht
  simp only [phase?, List.getElem?_set]
  split
  · rename_i hij
    subst hij
    simp [hi, hget]
  · rfl

/-! ### Entries -/

theorem entry?_eq_none : c.entry? f = none ↔ ∀ e ∈ c.entries, e.target.fingerprint ≠ f := by
  unfold entry?
  simp

theorem entry?_eq_some {e : Entry κ} (h : c.entry? f = some e) :
    e ∈ c.entries ∧ e.target.fingerprint = f :=
  ⟨List.mem_of_find?_eq_some h, by simpa using List.find?_some h⟩

theorem mem_erase {e : Entry κ} : e ∈ (c.erase f).entries ↔ e ∈ c.entries ∧ e.target.fingerprint ≠ f := by
  simp [erase]

theorem mem_put {e e' : Entry κ} :
    e' ∈ (c.put e).entries ↔
      (e' ∈ c.entries ∧ e'.target.fingerprint ≠ e.target.fingerprint) ∨ e' = e := by
  simp [put, erase]

/-! ### Gates -/

theorem first?_congr (h : d.gates = c.gates) : d.first? f = c.first? f := by
  simp only [first?, h]

theorem first?_join (h : c.first? f = some j) : (c.join f' i).first? f = some j := by
  simp only [first?, Option.map_eq_some_iff] at h ⊢
  obtain ⟨p, hp, rfl⟩ := h
  exact ⟨p, by simp [join, hp], rfl⟩

theorem first?_leave (hj : j ≠ i) (h : c.first? f = some j) : (c.leave i).first? f = some j := by
  simp only [first?, Option.map_eq_some_iff] at h ⊢
  obtain ⟨p, hp, rfl⟩ := h
  refine ⟨p, ?_, rfl⟩
  rw [List.find?_eq_some_iff_append] at hp ⊢
  obtain ⟨hf, before, after, hgates, hbefore⟩ := hp
  refine ⟨hf, before.filter fun p => p.2 != i, after.filter fun p => p.2 != i, ?_, fun q hq => ?_⟩
  · simp [leave, hgates, hj]
  · exact hbefore q (List.mem_filter.mp hq).1

/-- Tasks past a gate are the first there, and no entry stands where one is about to be put. -/
structure Gated (c : Cache κ α) : Prop where
  first : ∀ (i : Nat) (t : Task κ α) (f : Fingerprint), c.tasks[i]? = some t → t.phase.gate? = some f →
    t.Passed → c.first? f = some i
  absent : ∀ (i : Nat) (t : Task κ α) (f : Fingerprint), c.tasks[i]? = some t → t.phase.fills? = some f →
    ∀ e ∈ c.entries, e.target.fingerprint ≠ f
  keyed : (c.entries.map fun e => e.target.fingerprint).Nodup

namespace Gated

/-- At most one task dials a target or puts its entry in. -/
theorem fills_unique (g : Gated c) {t u : Task κ α} (hi : c.tasks[i]? = some t) (hj : c.tasks[j]? = some u)
    (ht : t.phase.fills? = some f) (hu : u.phase.fills? = some f) : i = j := by
  have hfirst := g.first i t f hi (Phase.gate?_of_fills? ht) (Or.inr (by simp [ht]))
  rw [g.first j u f hj (Phase.gate?_of_fills? hu) (Or.inr (by simp [hu]))] at hfirst
  exact (Option.some.inj hfirst).symm

theorem entry?_eq_none (g : Gated c) {t : Task κ α} (hi : c.tasks[i]? = some t)
    (ht : t.phase.fills? = some f) : c.entry? f = none :=
  Cache.entry?_eq_none.mpr (g.absent i t f hi ht)

/-- A task enters a phase in which it puts nothing in, and entries are at most taken out. -/
theorem enter (g : Gated c) {q : Phase κ α} (h : c'.Enters i q d) (htasks : c'.tasks = c.tasks)
    (hgates : ∀ j f, j ≠ i → c.first? f = some j → c'.first? f = some j)
    (hentries : c'.entries.Sublist c.entries) (hq : q.fills? = none) : Gated d where
  first j t f hj hf hp := by
    rw [first?_congr h.gates]
    rcases h.task_cases htasks hj with ⟨rfl, rfl⟩ | ⟨hne, hj⟩
    · simp [Task.Passed, hq] at hp
    · exact hgates j f hne (g.first j t f hj hf hp)
  absent j t f hj hf e he := by
    rw [h.entries] at he
    rcases h.task_cases htasks hj with ⟨rfl, rfl⟩ | ⟨-, hj⟩
    · rw [hq] at hf
      cases hf
    · exact g.absent j t f hj hf e (hentries.subset he)
  keyed := by
    rw [h.entries]
    exact g.keyed.sublist (hentries.map _)

/-- A task that is the first at its gate enters a phase at the same gate. -/
theorem enter_first (g : Gated c) {q : Phase κ α} (h : c'.Enters i q d) (htasks : c'.tasks = c.tasks)
    (hgates : c'.gates = c.gates) (hentries : c'.entries = c.entries) (hq : q.gate? = some f)
    (hfirst : c.first? f = some i) (habsent : ∀ e ∈ c.entries, e.target.fingerprint ≠ f) : Gated d where
  first j t f' hj hf hp := by
    rw [first?_congr (h.gates.trans hgates)]
    rcases h.task_cases htasks hj with ⟨rfl, rfl⟩ | ⟨-, hj⟩
    · rw [hq] at hf
      cases hf
      exact hfirst
    · exact g.first j t f' hj hf hp
  absent j t f' hj hf e he := by
    rw [h.entries, hentries] at he
    rcases h.task_cases htasks hj with ⟨rfl, rfl⟩ | ⟨-, hj⟩
    · rw [Phase.gate?_of_fills? hf] at hq
      cases hq
      exact habsent e he
    · exact g.absent j t f' hj hf e he
  keyed := by
    rw [h.entries, hentries]
    exact g.keyed

theorem lock (g : Gated c) {p : Phase κ α} {l : Lock} (ht : c.tasks[i]? = some ⟨p, none⟩)
    (hpassed : c.passed i p = true) : Gated { c with tasks := c.tasks.set i ⟨p, some l⟩ } := by
  refine ⟨fun j t f hj hf hp => ?_, fun j t f hj hf e he => ?_, g.keyed⟩
  · rcases set_cases hj with ⟨rfl, rfl⟩ | ⟨-, hj⟩
    · have hf' : p.gate? = some f := hf
      have hfirst : c.first? f = some j := by simpa [passed, hf'] using hpassed
      exact hfirst
    · exact g.first j t f hj hf hp
  · rcases set_cases hj with ⟨rfl, rfl⟩ | ⟨-, hj⟩
    · exact g.absent j _ f ht hf e he
    · exact g.absent j t f hj hf e he

theorem insert (g : Gated c) {e : Entry κ} {why : Purpose κ} {l : Option Lock} {q : Phase κ α}
    (ht : c.tasks[i]? = some ⟨.inserting e why, l⟩) (hq : q.Free)
    (h : ((c.put e).leave i).Enters i q d) : Gated d where
  first j t f hj hf hp := by
    rw [first?_congr h.gates]
    rcases h.task_cases (c := c) rfl hj with ⟨rfl, rfl⟩ | ⟨hne, hj⟩
    · rw [hq.gate] at hf
      cases hf
    · exact first?_leave (c := c.put e) hne (g.first j t f hj hf hp)
  absent j t f hj hf e' he' := by
    rw [h.entries] at he'
    rcases h.task_cases (c := c) rfl hj with ⟨rfl, rfl⟩ | ⟨hne, hj⟩
    · rw [hq.fills] at hf
      cases hf
    · rcases mem_put.mp he' with ⟨he', -⟩ | rfl
      · exact g.absent j t f hj hf e' he'
      · rintro rfl
        exact hne (g.fills_unique hj ht hf rfl)
  keyed := by
    rw [h.entries, show ((c.put e).leave i).entries = (c.erase e.target.fingerprint).entries ++ [e] from rfl,
      List.map_append, List.nodup_append]
    refine ⟨g.keyed.sublist (List.filter_sublist.map _), by simp, ?_⟩
    rintro _ hl _ hr rfl
    obtain ⟨e', he', hf⟩ := List.mem_map.mp hl
    rw [List.map_singleton, List.mem_singleton] at hr
    exact (mem_erase.mp he').2 (hf.trans hr)

theorem start (g : Gated c) {call : Call κ} : Gated (c.start call) := by
  have free := Phase.free_ofCall (α := α) call
  refine ⟨fun j t f hj hf hp => ?_, fun j t f hj hf e he => ?_, g.keyed⟩
  · rcases start_task_cases hj with hj | ⟨-, rfl⟩
    · exact g.first j t f hj hf hp
    · rw [free.gate] at hf
      cases hf
  · rcases start_task_cases hj with hj | ⟨-, rfl⟩
    · exact g.absent j t f hj hf e he
    · rw [free.fills] at hf
      cases hf

theorem move (g : Gated c) {m : Move κ α} (h : c.move m = some d) : Gated d := by
  cases effect_of_move h with
  | start => exact g.start
  | lock task passed => exact g.lock task passed
  | pass _ _ enters _ _ there =>
    exact g.enter enters rfl (fun _ _ _ h => h) (List.Sublist.refl _) there.fills
  | queue _ enters => exact g.enter enters rfl (fun _ _ _ h => first?_join h) (List.Sublist.refl _) rfl
  | @dial i target why l _ task entry check enters =>
    exact g.enter_first enters rfl rfl rfl rfl (g.first i _ _ task rfl (Or.inl rfl))
      (Cache.entry?_eq_none.mp entry)
  | @dialed i target why l _ task enters =>
    exact g.enter_first enters rfl rfl rfl rfl (g.first i _ _ task rfl (Or.inr rfl))
      (g.absent i _ _ task rfl)
  | leave _ _ enters _ _ there =>
    exact g.enter enters rfl (fun _ _ hne h => first?_leave hne h) (List.Sublist.refl _) there.fills
  | insert task there enters => exact g.insert task there enters
  | remove _ _ _ _ enters => exact g.enter enters rfl (fun _ _ _ h => h) List.filter_sublist rfl
  | drain _ _ enters =>
    exact g.enter enters rfl (fun _ _ _ h => h) (List.nil_sublist _) (Phase.owes_toClose _).fills
  | @closed i e why l r _ task enters =>
    exact g.enter enters rfl (fun _ _ _ h => h) (List.Sublist.refl _) (Phase.owes_afterRemoval why true).fills
  | drop _ enters => exact g.enter enters rfl (fun _ _ hne h => first?_leave hne h) (List.Sublist.refl _) rfl

end Gated

end Cache

end StoreAccess
