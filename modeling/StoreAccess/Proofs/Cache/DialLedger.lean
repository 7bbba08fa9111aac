import StoreAccess.Proofs.Cache.Conservation

/-! The books of the dials: each one that was begun is in flight, or has made a handle, or failed, or was
    given up. As a gate lets one task through at a time, at most one of a fingerprint is in flight. -/

namespace StoreAccess

variable {κ α : Type} [BackendConfig κ] {backend : BackendKind} {options : CacheOptions} {order : EntryOrder}
  {c₀ c d : Cache κ α} {h : History κ α} {i : Nat} {m : Move κ α} {f : Fingerprint}

/-! ### Dials -/

/-- The fingerprint that a request is to dial. -/
def Request.dials? : Request κ → Option Fingerprint
  | .dial config _ => some (BackendConfig.fingerprint config)
  | _ => none

namespace Phase

def dialingNow : Phase κ α → List Fingerprint
  | dialing target _ => [target.fingerprint]
  | _ => []

theorem fills?_toList (p : Phase κ α) :
    p.fills?.toList = p.dialingNow ++ p.held.map Lease.fingerprint := by cases p <;> rfl

theorem dialingNow_eq_nil {p : Phase κ α} (hp : p.fills? = none) : p.dialingNow = [] := by
  have split := p.fills?_toList
  rw [hp] at split
  exact (List.append_eq_nil_iff.mp split.symm).1

end Phase

namespace Cache

/-- The fingerprints that the client was told to dial. -/
def dialCalls (c : Cache κ α) : List Fingerprint := c.requests.filterMap fun x => x.2.dials?

theorem Enters.dialCalls_eq {c' : Cache κ α} {q : Phase κ α} (enters : c'.Enters i q d)
    (hevents : c'.events = c.events) : d.dialCalls = c.dialCalls ++ q.dialingNow := by
  rw [dialCalls, enters.requests, List.filterMap_append, Cache.requests, hevents]
  congr 1
  cases q with
  | dialing target why => simp [Phase.request?, Request.dials?, Phase.dialingNow, target.fingerprint_eq]
  | _ => rfl

end Cache

/-- The fingerprint whose dial failed. -/
def Transition.failed (x : Transition κ α) : List Fingerprint :=
  match x.move with
  | .reply i r =>
    match x.before.phase? i, r with
    | some (.dialing _ _), .success => []
    | some (.dialing target _), _ => [target.fingerprint]
    | _, _ => []
  | _ => []

def History.failed (h : History κ α) : List Fingerprint := h.flatMap Transition.failed

theorem Transition.failed_of_idle {p : Phase κ α} (hm : m.worker? = some i) (hp : c.phase? i = some p)
    (idle : p.dialingNow = []) : (Transition.mk c m d).failed = [] := by
  cases m with
  | start | drop => cases hm
  | step => rfl
  | reply j r =>
    cases hm
    cases p with
    | dialing => cases idle
    | _ => simp [failed, hp]

/-- Every dial that was begun is in flight, or has made a handle, or failed, or was given up. -/
def Transition.Dials (x : Transition κ α) (f : Fingerprint) : Prop :=
  x.after.dialCalls.count f + (x.before.inHand Phase.dialingNow).count f =
    x.before.dialCalls.count f + (x.after.inHand Phase.dialingNow).count f +
      (x.dialed.map Lease.fingerprint).count f + x.failed.count f + (x.lost Phase.dialingNow).count f

theorem Transition.dials_of_work {c' : Cache κ α} {p q : Phase κ α} {l : Option Lock}
    (dials : List Lease) (fails : List Fingerprint) (hm : m.worker? = some i) (enters : c'.Enters i q d)
    (htasks : c'.tasks = c.tasks) (hevents : c'.events = c.events) (task : c.tasks[i]? = some ⟨p, l⟩)
    (hdials : (Transition.mk c m d).dialed = dials) (hfails : (Transition.mk c m d).failed = fails)
    (ends : p.dialingNow = dials.map Lease.fingerprint ++ fails) : (Transition.mk c m d).Dials f := by
  have hand := enters.count_inHand Phase.dialingNow htasks task f
  rw [Dials, hdials, hfails, lost_of_worker _ hm, enters.dialCalls_eq hevents]
  rw [ends] at hand
  simp only [List.count_append, List.count_nil] at hand ⊢
  omega

theorem Transition.dials_of_pass {c' : Cache κ α} {p q : Phase κ α} {l : Option Lock}
    (hm : m.worker? = some i) (enters : c'.Enters i q d) (htasks : c'.tasks = c.tasks)
    (hevents : c'.events = c.events) (task : c.tasks[i]? = some ⟨p, l⟩) (hp : p.dialingNow = [])
    (hq : q.held = []) : (Transition.mk c m d).Dials f :=
  dials_of_work [] [] hm enters htasks hevents task (dialed_of_held hm (enters.phase?_eq htasks task) hq)
    (failed_of_idle hm (Cache.phase?_of_task task) hp) hp

theorem Transition.dials_of_move (move : c.move m = some d) : (Transition.mk c m d).Dials f := by
  have does := Cache.does_of_move move
  cases does with
  | start =>
    have idle : (Phase.ofCall ‹_› : Phase κ α).dialingNow = [] :=
      Phase.dialingNow_eq_nil (Phase.free_ofCall _).fills
    have hand : (c.start ‹_›).inHand Phase.dialingNow = c.inHand Phase.dialingNow := by
      simp [Cache.inHand, Cache.start, idle]
    have calls : (c.start ‹_›).dialCalls = c.dialCalls := rfl
    simp [Dials, hand, calls, dialed, dialing?, failed, lost, Move.dropped?]
  | @lock i p l task =>
    have hand := count_flatMap_set (fun t : Task κ α => t.phase.dialingNow) ⟨p, some l⟩ f task
    have same : (Cache.inHand Phase.dialingNow { c with tasks := c.tasks.set i ⟨p, some l⟩ }).count f =
        (c.inHand Phase.dialingNow).count f := Nat.add_right_cancel hand
    have calls : Cache.dialCalls { c with tasks := c.tasks.set i ⟨p, some l⟩ } = c.dialCalls := rfl
    simp [Dials, same, calls, dialed, dialing?, failed, lost, Move.dropped?]
  | hit task _ enters | share task _ enters | insert task enters =>
    exact dials_of_pass rfl enters rfl rfl task rfl (Phase.free_afterLease _ _ _).held
  | reject task _ _ enters =>
    exact dials_of_pass rfl enters rfl rfl task rfl (Phase.free_afterRefusal _ _ _).held
  | miss task _ enters | removeNone task _ enters | remove task _ enters | unpinged task _ enters =>
    exact dials_of_pass rfl enters rfl rfl task rfl rfl
  | queue task enters | count task enters | contain task enters | operated task enters =>
    exact dials_of_pass rfl enters rfl rfl task rfl rfl
  | dial task _ _ enters | evict task _ _ enters => exact dials_of_pass rfl enters rfl rfl task rfl rfl
  | evictNone task _ enters | closed task _ enters =>
    exact dials_of_pass rfl enters rfl rfl task rfl (Phase.owes_afterRemoval _ _).held
  | drain task _ enters => exact dials_of_pass rfl enters rfl rfl task rfl (Phase.owes_toClose _).held
  | note task _ enters | pinged task enters =>
    exact dials_of_pass rfl enters rfl rfl task rfl (Phase.free_toPing _ _).held
  | failed task _ enters =>
    exact dials_of_pass rfl enters rfl rfl task rfl (Phase.free_afterOperation _ _ _ _).held
  | @dialed i target why l _ task enters =>
    refine dials_of_work [(c.newEntry target).lease] [] rfl enters rfl rfl task ?_ ?_ rfl
    · simp [dialed, dialing?, Cache.phase?_of_task task, enters.phase?_eq (c := c) rfl task]
    · simp [failed, Cache.phase?_of_task task]
  | @undialed i target why l r err _ task reply enters =>
    refine dials_of_work [] [target.fingerprint] rfl enters rfl rfl task
      (dialed_of_held rfl (enters.phase?_eq (c := c) rfl task) (Phase.free_afterRefusal _ _ _).held) ?_ rfl
    rcases reply with rfl | ⟨rfl, -⟩ <;> simp [failed, Cache.phase?_of_task task]
  | @drop i p l _ task _ enters =>
    have hand : (d.inHand Phase.dialingNow).count f + p.dialingNow.count f =
        (c.inHand Phase.dialingNow).count f + 0 := enters.count_inHand Phase.dialingNow rfl task f
    have calls : d.dialCalls = c.dialCalls ++ [] := enters.dialCalls_eq (c := c) rfl
    simp only [Dials, calls, lost, Move.dropped?, Option.bind_some, Cache.phase?_of_task task, Option.elim_some,
      dialed, dialing?, failed, Option.map_none, Option.toList_none, List.map_nil, List.append_nil, List.count_nil]
    omega

/-- Every dial that a run began is in flight, or has made a handle, or failed, or was given up. -/
theorem Run.count_dialCalls (new : Cache.ofOptions backend options order = .ok c₀) (run : Run c₀ h c)
    (f : Fingerprint) : c.dialCalls.count f = (c.inHand Phase.dialingNow).count f +
      (h.dialed.map Lease.fingerprint).count f + h.failed.count f + (h.lost Phase.dialingNow).count f := by
  induction run with
  | nil =>
    rw [Cache.ofOptions_eq_ok new]
    rfl
  | @snoc h c d m run move ih =>
    have balance : (Transition.mk c m d).Dials f := Transition.dials_of_move move
    simp only [Transition.Dials] at balance
    have failed : History.failed (h ++ [⟨c, m, d⟩]) = h.failed ++ (Transition.mk c m d).failed := by
      simp [History.failed]
    simp only [History.dialed_snoc, History.lost_snoc, failed, List.map_append, List.count_append]
    omega

namespace Cache

/-- The fingerprints for which tasks dial or are about to put an entry in. -/
def filling (c : Cache κ α) : List Fingerprint := c.inHand fun p => p.fills?.toList

theorem count_filling (f : Fingerprint) :
    c.filling.count f = (c.inHand Phase.dialingNow).count f + (c.held.map Lease.fingerprint).count f := by
  simp only [filling, held, inHand]
  induction c.tasks with
  | nil => rfl
  | cons t ts ih =>
    simp only [List.flatMap_cons, List.map_append, List.count_append, ih]
    rw [Phase.fills?_toList, List.count_append]
    omega

/-- What no task has twice and no two tasks have is there once. -/
theorem count_inHand_le_one {β : Type} [DecidableEq β] {g : Phase κ α → List β} {y : β}
    (hg : g .dropped = []) (once : ∀ p, (g p).count y ≤ 1)
    (unique : ∀ i j p q, c.phase? i = some p → c.phase? j = some q → y ∈ g p → y ∈ g q → i = j) :
    (c.inHand g).count y ≤ 1 := by
  by_cases hy : y ∈ c.inHand g
  · obtain ⟨i, p, hi, hp⟩ := mem_inHand.mp hy
    obtain ⟨l, task⟩ := phase?_eq_some.mp hi
    have without := count_flatMap_set (fun t : Task κ α => g t.phase) ⟨.dropped, none⟩ y task
    -- No other task has it.
    have rest : ((c.tasks.set i ⟨.dropped, none⟩).flatMap fun t => g t.phase).count y = 0 := by
      rw [List.count_eq_zero, List.mem_flatMap]
      rintro ⟨t, ht, hmem⟩
      obtain ⟨j, hj⟩ := List.mem_iff_getElem?.mp ht
      rcases set_cases hj with ⟨-, rfl⟩ | ⟨hne, hj⟩
      · rw [hg] at hmem
        cases hmem
      · exact hne (unique j i t.phase p (phase?_of_task hj) hi hmem hp)
    have own := once p
    simp only [hg, List.count_nil] at without
    rw [inHand]
    omega
  · rw [List.count_eq_zero.mpr hy]
    exact Nat.zero_le _

theorem Gated.count_filling_le_one (g : Gated c) (f : Fingerprint) : c.filling.count f ≤ 1 := by
  refine count_inHand_le_one rfl (fun p => ?_) fun i j p q hi hj hp hq => ?_
  · cases p.fills? with
    | none => simp
    | some f' => exact List.count_le_length
  · obtain ⟨l, task⟩ := phase?_eq_some.mp hi
    obtain ⟨l', task'⟩ := phase?_eq_some.mp hj
    exact g.fills_unique task task' (Option.mem_toList.mp hp) (Option.mem_toList.mp hq)

theorem Gated.count_filling_of_entry (g : Gated c) {e : Entry κ} (he : c.entry? f = some e) :
    c.filling.count f = 0 := by
  rw [List.count_eq_zero]
  intro hf
  obtain ⟨i, p, hi, hp⟩ := mem_inHand.mp hf
  obtain ⟨l, task⟩ := phase?_eq_some.mp hi
  rw [g.entry?_eq_none task (Option.mem_toList.mp hp)] at he
  cases he

theorem Gated.count_cached (g : Gated c) (f : Fingerprint) :
    (c.cached.map Lease.fingerprint).count f = ((c.entry? f).map Entry.lease).toList.length := by
  rw [← g.filter_cached f, List.count_eq_countP, List.countP_map, List.countP_eq_length_filter]
  rfl

end Cache

/-! ### Steady targets -/

theorem History.mem_lost {β : Type} {g : Phase κ α → List β} {y : β} : y ∈ h.lost g ↔
    ∃ x ∈ h, ∃ i p, x.move.dropped? = some i ∧ x.before.phase? i = some p ∧ y ∈ g p := by
  simp only [lost, List.mem_flatMap]
  refine exists_congr fun x => and_congr_right fun _ => ?_
  cases hdropped : x.move.dropped? with
  | none => simp [Transition.lost, hdropped]
  | some i => cases hp : x.before.phase? i <;> simp [Transition.lost, hdropped, hp]

/-- All dials of a fingerprint come to their end and succeed, and nobody removes its entry. -/
structure History.Steady (h : History κ α) (f : Fingerprint) : Prop where
  succeeds : f ∉ h.failed
  /-- Nobody is given up who dials it or has yet to put its entry in. -/
  finishes : f ∉ h.lost fun p => p.fills?.toList
  stays : ∀ l ∈ h.removed, l.fingerprint ≠ f

namespace History.Steady

theorem lost_dialingNow (steady : h.Steady f) : f ∉ h.lost Phase.dialingNow := fun hf => by
  obtain ⟨x, hx, i, p, hdropped, hp, hf⟩ := mem_lost.mp hf
  refine steady.finishes (mem_lost.mpr ⟨x, hx, i, p, hdropped, hp, ?_⟩)
  rw [p.fills?_toList]
  exact List.mem_append_left _ hf

theorem lost_held (steady : h.Steady f) : f ∉ (h.lost Phase.held).map Lease.fingerprint := fun hf => by
  obtain ⟨l, hl, rfl⟩ := List.mem_map.mp hf
  obtain ⟨x, hx, i, p, hdropped, hp, hl⟩ := mem_lost.mp hl
  refine steady.finishes (mem_lost.mpr ⟨x, hx, i, p, hdropped, hp, ?_⟩)
  rw [p.fills?_toList]
  exact List.mem_append_right _ (List.mem_map_of_mem hl)

end History.Steady

/-- Of a target with a steady entry, each dialed handle is held or in the cache. -/
theorem Ledger.count_dialed_of_steady (k : Ledger h c) (steady : h.Steady f) :
    (h.dialed.map Lease.fingerprint).count f =
      (c.held.map Lease.fingerprint).count f + (c.cached.map Lease.fingerprint).count f := by
  have dialed : (c.held ++ h.inserted ++ h.lost Phase.held).Perm h.dialed :=
    List.perm_iff_count.mpr fun l => by simp only [List.count_append, k.dialed l]
  have inserted : (c.cached ++ h.removed).Perm h.inserted :=
    List.perm_iff_count.mpr fun l => by simp only [List.count_append, k.inserted l]
  have dialed := (dialed.map Lease.fingerprint).count_eq f
  have inserted := (inserted.map Lease.fingerprint).count_eq f
  have stays : (h.removed.map Lease.fingerprint).count f = 0 := by
    rw [List.count_eq_zero, List.mem_map]
    rintro ⟨l, hl, hf⟩
    exact steady.stays l hl hf
  have unlost := List.count_eq_zero.mpr steady.lost_held
  simp only [List.map_append, List.count_append] at dialed inserted
  omega

/-- A target with a steady entry is dialed at most once, and once if its entry is there. -/
theorem Run.count_dialCalls_le_one (new : Cache.ofOptions backend options order = .ok c₀) (run : Run c₀ h c)
    (steady : h.Steady f) :
    c.dialCalls.count f ≤ 1 ∧ ∀ e, c.entry? f = some e → c.dialCalls.count f = 1 := by
  have k := run.ledger new
  have calls := run.count_dialCalls new f
  have filling := c.count_filling f
  have once := k.gated.count_filling_le_one f
  have cached := k.gated.count_cached f
  have books := k.count_dialed_of_steady steady
  rw [List.count_eq_zero.mpr steady.succeeds, List.count_eq_zero.mpr steady.lost_dialingNow] at calls
  cases hentry : c.entry? f with
  | none =>
    simp only [hentry, Option.map_none, Option.toList_none, List.length_nil] at cached
    exact ⟨by omega, fun e he => by cases he⟩
  | some e =>
    have empty := k.gated.count_filling_of_entry hentry
    simp only [hentry, Option.map_some, Option.toList_some, List.length_singleton] at cached
    exact ⟨by omega, fun _ _ => by omega⟩

end StoreAccess
