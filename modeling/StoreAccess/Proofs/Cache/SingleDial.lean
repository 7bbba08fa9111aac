import StoreAccess.Proofs.Cache.DialLedger
import StoreAccess.Proofs.Cache.Progress

/-! One dial at a time for each fingerprint. The gate keeps all others out from before the dial until the
    entry is in, so nobody dials what is there, and inserts and removals take turns. A target whose dials
    succeed and whose entry nobody removes is dialed once, however many callers it has. -/

namespace StoreAccess

variable {κ α : Type} [BackendConfig κ] {backend : BackendKind} {options : CacheOptions} {order : EntryOrder}
  {c₀ c d : Cache κ α} {h : History κ α} {i j : Nat} {m : Move κ α} {f : Fingerprint}

/-! ### Dials in flight -/

namespace Cache

theorem phase?_of_dial {config : κ} {pool : PoolSettings} (hr : c.request? i = some (.dial config pool)) :
    ∃ target why, c.phase? i = some (.dialing target why) ∧
      target.fingerprint = BackendConfig.fingerprint config := by
  obtain ⟨p, hp, hr⟩ := Option.bind_eq_some_iff.mp hr
  cases p with
  | dialing target why =>
    cases hr
    exact ⟨target, why, hp, target.fingerprint_eq⟩
  | _ => cases hr

/-- Whoever dials a target after a move found no entry of it before. -/
theorem Gated.entry?_of_dialing (g : Gated c) (move : c.move m = some d) {target : Target κ}
    {why : Purpose κ} (hp : d.phase? j = some (.dialing target why)) :
    c.entry? target.fingerprint = none := by
  have stays : c.phase? j = some (.dialing target why) → c.entry? target.fingerprint = none := fun hp => by
    obtain ⟨l, task⟩ := phase?_eq_some.mp hp
    exact g.entry?_eq_none task rfl
  have pass : ∀ {c' : Cache κ α} {i : Nat} {q : Phase κ α}, c'.Enters i q d → c'.tasks = c.tasks →
      q.dialingNow = [] → c.entry? target.fingerprint = none := fun enters ht hq => by
    rcases enters.phase_cases ht hp with ⟨-, rfl⟩ | ⟨-, hp⟩
    · cases hq
    · exact stays hp
  have effect := effect_of_move move
  cases effect with
  | @start call =>
    rcases start_phase_cases hp with hp | ⟨-, hcall⟩
    · exact stays hp
    · cases call <;> cases hcall
  | lock task => exact stays (lock_phase? task ▸ hp)
  | dial _ entry _ enters =>
    rcases enters.phase_cases (c := c) rfl hp with ⟨-, hq⟩ | ⟨-, hp⟩
    · cases hq
      exact entry
    · exact stays hp
  | pass _ _ enters _ _ there => exact pass enters rfl (Phase.dialingNow_eq_nil there.fills)
  | leave _ _ enters _ _ there => exact pass enters rfl (Phase.dialingNow_eq_nil there.fills)
  | insert _ there enters => exact pass enters rfl (Phase.dialingNow_eq_nil there.fills)
  | queue _ enters => exact pass enters rfl rfl
  | dialed _ enters => exact pass enters rfl rfl
  | remove _ _ _ _ enters => exact pass enters rfl rfl
  | drain _ _ enters => exact pass enters rfl (Phase.dialingNow_eq_nil (Phase.owes_toClose _).fills)
  | closed _ enters => exact pass enters rfl (Phase.dialingNow_eq_nil (Phase.owes_afterRemoval _ _).fills)
  | drop _ enters => exact pass enters rfl rfl

end Cache

/-! ### Inserts and removals -/

/-- What befalls the entry of a fingerprint. -/
inductive Mark where
  | inserted (l : Lease)
  | removed (l : Lease)

def Transition.marks (f : Fingerprint) (x : Transition κ α) : List Mark :=
  (x.inserted.filter fun l => l.fingerprint == f).map .inserted ++
    (x.removed.filter fun l => l.fingerprint == f).map .removed

def History.marks (f : Fingerprint) (h : History κ α) : List Mark := h.flatMap (Transition.marks f)

/-- Whether the entry of a fingerprint was put in last. -/
def Cache.mark (f : Fingerprint) (c : Cache κ α) : List Mark :=
  ((c.entry? f).map fun e => Mark.inserted e.lease).toList

/-- An insert finds no entry, and a removal takes the entry that is there. -/
theorem Transition.marks_eq (g : c.Gated) (g' : d.Gated) (move : c.move m = some d) :
    ((Transition.mk c m d).marks f = [] ∧ d.mark f = c.mark f) ∨
      (∃ l, (Transition.mk c m d).marks f = [.inserted l] ∧ c.mark f = [] ∧ d.mark f = [.inserted l]) ∨
      ∃ l, (Transition.mk c m d).marks f = [.removed l] ∧ c.mark f = [.inserted l] ∧ d.mark f = [] := by
  have before := g.filter_cached f
  have after := g'.filter_cached f
  have swap : ∀ (a b : List Lease), ((a.filter fun l => l ∉ b).filter fun l => l.fingerprint == f) =
      (a.filter fun l => l.fingerprint == f).filter fun l => l ∉ b := fun a b => by
    simp only [List.filter_filter]
    exact List.filter_congr fun l _ => Bool.and_comm _ _
  have hmarks : (Transition.mk c m d).marks f =
      ((((d.entry? f).map Entry.lease).toList.filter fun l => l ∉ c.cached).map .inserted) ++
        ((((c.entry? f).map Entry.lease).toList.filter fun l => l ∉ d.cached).map .removed) := by
    simp only [marks, inserted, removed, swap, before, after]
  rw [hmarks]
  have mem : ∀ {c : Cache κ α} {e : Entry κ}, c.entry? f = some e → e.lease ∈ c.cached := fun he =>
    List.mem_map_of_mem (Cache.entry?_eq_some he).1
  have absent : ∀ {c : Cache κ α} {l : Lease}, c.entry? f = none → l.fingerprint = f → l ∉ c.cached :=
    fun hnone hl hmem => by
      obtain ⟨e, he, rfl⟩ := List.mem_map.mp hmem
      exact Cache.entry?_eq_none.mp hnone e he hl
  cases hc : c.entry? f with
  | none =>
    cases hd : d.entry? f with
    | none => exact Or.inl ⟨rfl, by simp [Cache.mark, hc, hd]⟩
    | some e =>
      have hnew := absent hc (l := e.lease) (Cache.entry?_eq_some hd).2
      exact Or.inr (Or.inl ⟨e.lease, by simp [hnew], by simp [Cache.mark, hc], by simp [Cache.mark, hd]⟩)
  | some e =>
    cases hd : d.entry? f with
    | none =>
      have hgone := absent hd (l := e.lease) (Cache.entry?_eq_some hc).2
      exact Or.inr (Or.inr ⟨e.lease, by simp [hgone], by simp [Cache.mark, hc], by simp [Cache.mark, hd]⟩)
    | some e' =>
      -- The entry was there before: nothing is put in where one is.
      have fingerprints := (Cache.entry?_eq_some hc).2.trans (Cache.entry?_eq_some hd).2.symm
      have before : e'.lease ∈ c.cached := by
        rcases cached_cases g move with hsub | ⟨l, hcached, hfresh⟩
        · exact hsub _ (mem hd)
        · have hin := mem hd
          rw [hcached, List.mem_append, List.mem_singleton] at hin
          rcases hin with hin | rfl
          · exact hin
          · exact absurd fingerprints (hfresh _ (mem hc))
      have same : e'.lease = e.lease := g.cached_unique before (mem hc) fingerprints.symm
      have hthere := mem hc
      have hhere := mem hd
      rw [same] at hhere
      exact Or.inl ⟨by simp [same, hthere, hhere], by simp [Cache.mark, hc, hd, same]⟩

theorem History.marks_snoc (h : History κ α) (x : Transition κ α) :
    marks f (h ++ [x]) = marks f h ++ x.marks f := by simp [marks]

theorem Run.marks_alternate (new : Cache.ofOptions backend options order = .ok c₀) (run : Run c₀ h c)
    (f : Fingerprint) :
    ∃ ls : List Lease, h.marks f = ls.flatMap (fun l => [.inserted l, .removed l]) ++ c.mark f := by
  induction run with
  | nil =>
    rw [Cache.ofOptions_eq_ok new]
    exact ⟨[], rfl⟩
  | @snoc h c d m run move ih =>
    obtain ⟨ls, ih⟩ := ih
    rw [History.marks_snoc, ih]
    have g := (run.ledger new).gated
    rcases Transition.marks_eq g (g.move move) move (f := f) with
      ⟨hmarks, hd⟩ | ⟨l, hmarks, hc, hd⟩ | ⟨l, hmarks, hc, hd⟩
    · exact ⟨ls, by simp [hmarks, hd]⟩
    · exact ⟨ls, by simp [hmarks, hc, hd]⟩
    · exact ⟨ls ++ [l], by simp [hmarks, hc, hd]⟩

/-! ### Between two dials -/

/-- While a target is dialed, no handle of it is held or in the cache. -/
theorem Cache.Gated.absent_of_dialing (g : Gated c) {target : Target κ} {why : Purpose κ} {l : Lease}
    (hp : c.phase? j = some (.dialing target why)) (hl : l.fingerprint = target.fingerprint) :
    l ∉ c.held ∧ l ∉ c.cached := by
  obtain ⟨lock, task⟩ := phase?_eq_some.mp hp
  refine ⟨fun held => ?_, fun cached => ?_⟩
  · obtain ⟨k, p, hk, hmem⟩ := mem_inHand.mp held
    cases p with
    | inserting e why' =>
      obtain ⟨lock', task'⟩ := phase?_eq_some.mp hk
      cases List.mem_singleton.mp hmem
      have same : k = j := g.fills_unique task' task (congrArg some hl) rfl
      subst same
      rw [hp] at hk
      cases hk
    | _ => cases hmem
  · obtain ⟨e, he, rfl⟩ := List.mem_map.mp cached
    exact g.absent j _ _ task rfl e he hl

theorem Transition.held_of_dialing? {x : Transition κ α} {e : Entry κ} (hx : x.dialing? = some (i, e)) :
    e.lease ∈ x.after.held := by
  simp only [dialing?] at hx
  split at hx
  · split at hx
    · rename_i hafter
      cases hx
      exact Cache.mem_inHand.mpr ⟨_, _, hafter, List.mem_singleton_self _⟩
    · cases hx
  · cases hx

/-- Between two dials of one fingerprint the entry of the first is removed, unless the caller who held it
    was given up. -/
theorem Run.removed_between (new : Cache.ofOptions backend options order = .ok c₀)
    {h₁ h₂ h₃ : History κ α} {x y : Transition κ α} (run : Run c₀ (h₁ ++ x :: (h₂ ++ y :: h₃)) c)
    {e e' : Entry κ} (hx : x.dialing? = some (i, e)) (hy : y.dialing? = some (j, e'))
    (same : e.target.fingerprint = e'.target.fingerprint)
    (kept : e.lease ∉ History.lost Phase.held h₂) : e.lease ∈ History.removed h₂ := by
  have regroup : h₁ ++ x :: (h₂ ++ y :: h₃) = (h₁ ++ [x] ++ h₂) ++ y :: h₃ := by simp
  rw [regroup] at run
  obtain ⟨upToY, ymove, -⟩ := run.split
  rw [List.append_assoc] at upToY
  obtain ⟨before, xmove, -⟩ := upToY.split
  have kx : Ledger (h₁ ++ [x]) x.after := (before.snoc xmove).ledger new
  have ky := upToY.ledger new
  -- Right after its dial the first handle is held, so it was neither put in nor lost yet.
  have held := List.count_pos_iff.mpr (Transition.held_of_dialing? hx)
  have once := kx.count_dialed_le e.lease
  have first := kx.dialed e.lease
  have unremoved : (History.removed (h₁ ++ [x])).count e.lease = 0 := by
    have inserted := kx.inserted e.lease
    omega
  -- When the second dial ends it is neither held nor there, so it was put in and removed.
  have removed : 0 < (History.removed (h₁ ++ ([x] ++ h₂))).count e.lease := by
    have made : 0 < (History.dialed (h₁ ++ ([x] ++ h₂))).count e.lease := by
      rw [List.count_pos_iff, History.dialed_eq, List.mem_map]
      exact ⟨(i, e), History.mem_dialings.mpr ⟨x, by simp, hx⟩, rfl⟩
    rcases Transition.dialed_cases ymove with ⟨hnil, -⟩ | ⟨j', target, why, hphase, hdialing, -⟩
    · simp [Transition.dialed, hy] at hnil
    · have hentry : (j', y.before.newEntry target) = (j, e') := Option.some.inj (hdialing.symm.trans hy)
      cases hentry
      obtain ⟨unheld, uncached⟩ := ky.gated.absent_of_dialing (l := e.lease) hphase same
      have dialed := ky.dialed e.lease
      have inserted := ky.inserted e.lease
      have lost : (History.lost Phase.held (h₁ ++ ([x] ++ h₂))).count e.lease = 0 := by
        rw [← List.append_assoc, History.lost, List.flatMap_append, List.count_append]
        have later : (h₂.flatMap (Transition.lost Phase.held)).count e.lease = 0 :=
          List.count_eq_zero.mpr kept
        rw [later]
        exact Nat.eq_zero_of_le_zero (by rw [History.lost] at first; omega)
      rw [List.count_eq_zero.mpr unheld, lost] at dialed
      rw [List.count_eq_zero.mpr uncached] at inserted
      omega
  rw [← List.append_assoc, History.removed, List.flatMap_append, List.count_append] at removed
  exact List.count_pos_iff.mp (by rw [History.removed] at unremoved ⊢; omega)

/-! ### Callers of one target -/

theorem Run.cached_of_lent? (new : Cache.ofOptions backend options order = .ok c₀) (run : Run c₀ h c)
    {x : Transition κ α} (hx : x ∈ h) {l : Lease} (hl : x.lent? = some l) (stays : l ∉ h.removed) :
    l ∈ c.cached := by
  obtain ⟨h₁, h₂, rfl, before, move, -⟩ := run.upTo hx
  have kx : Ledger (h₁ ++ [x]) x.after := (before.snoc move).ledger new
  have k := run.ledger new
  have there := List.count_pos_iff.mpr (Transition.cached_of_lent? move hl)
  have inserted := kx.inserted l
  have later : (History.inserted (h₁ ++ [x])).count l ≤ (History.inserted (h₁ ++ x :: h₂)).count l := by
    refine List.Sublist.count_le l ?_
    simp [History.inserted]
  have total := k.inserted l
  rw [List.count_eq_zero.mpr stays] at total
  exact List.count_pos_iff.mp (by omega)

/-- An acquisition of a sound target is not refused while the dials of the target succeed. -/
theorem Run.not_refused (new : Cache.ofOptions backend options order = .ok c₀) (run : Run c₀ h c) {config : κ}
    (hcall : h.calls[i]? = some (.acquire config)) (check : (Target.ofConfig config).check = .ok ())
    (succeeds : BackendConfig.fingerprint config ∉ h.failed) {x : Transition κ α} (hx : x ∈ h) :
    ¬∃ e, x.before.Refuses i e x.move := by
  obtain ⟨before, move, after⟩ := x
  rintro ⟨_, ⟨task, rejected⟩ | ⟨task, failed⟩⟩
  · have acquires := run.admits_before new hx hcall (Cache.phase?_of_task task)
    rw [acquires.target_eq, check] at rejected
    cases rejected
  · have acquires := run.admits_before new hx hcall (Cache.phase?_of_task task)
    have htarget := acquires.target_eq
    subst htarget
    refine succeeds (List.mem_flatMap.mpr ⟨_, hx, ?_⟩)
    rcases failed with rfl | ⟨rfl, -⟩ <;> simp [Transition.failed, Cache.phase?_of_task task] <;> rfl

/-- All callers of a target with a steady entry are lent that one entry. -/
theorem Run.answer_of_shared (new : Cache.ofOptions backend options order = .ok c₀) (run : Run c₀ h c)
    {config : κ} (hcall : h.calls[i]? = some (.acquire config))
    (check : (Target.ofConfig config).check = .ok ())
    (steady : h.Steady (BackendConfig.fingerprint config)) {a : CallAnswer α}
    (answer : c.answer? i = some a) :
    ∃ e, c.entry? (BackendConfig.fingerprint config) = some e ∧ a = .leased (.ok e.lease) := by
  have hp := Cache.answer?_eq_some.mp answer
  have answers : (Call.acquire config).Answers a := (run.admitted new).admits i _ _ hcall hp
  obtain ⟨o, rfl, hl⟩ := answers.leased
  rcases run.outcome_cases new hp rfl with ⟨l, rfl, x, hx, -, hlent⟩ | ⟨e, rfl, x, hx, hrefuses⟩
  · have cached := run.cached_of_lent? new hx hlent fun hmem => steady.stays l hmem (hl l rfl)
    obtain ⟨e, he, rfl⟩ := List.mem_map.mp cached
    have entry := Cache.entry?_of_mem (run.ledger new).gated he
    exact ⟨e, by rw [← hl _ rfl]; exact entry, rfl⟩
  · exact absurd ⟨e, hrefuses⟩ (run.not_refused new hcall check steady.succeeds hx)

/-! ### Single dials -/

/-- Who dials a fingerprint, and when. -/
structure SinglyDialed (h : History κ α) (c : Cache κ α) : Prop where
  /-- At most one dial of a fingerprint is in flight. -/
  unique : ∀ i j a b pa pb, c.request? i = some (.dial a pa) → c.request? j = some (.dial b pb) →
    BackendConfig.fingerprint a = BackendConfig.fingerprint b → i = j
  /-- What is dialed is not there. -/
  absent : ∀ i a pa, c.request? i = some (.dial a pa) → c.entry? (BackendConfig.fingerprint a) = none
  /-- Nor was it there when the dial began. -/
  begins : ∀ x ∈ h, ∀ i a pa, x.after.request? i = some (.dial a pa) →
    x.before.entry? (BackendConfig.fingerprint a) = none
  /-- The entry of a fingerprint is put in and removed by turns; a removal removes what was put in. -/
  alternate : ∀ f, ∃ ls : List Lease,
    h.marks f = ls.flatMap (fun l => [.inserted l, .removed l]) ++ c.mark f
  /-- Between two dials of one fingerprint the entry of the first was removed, unless the caller who held
      it was given up. -/
  between : ∀ h₁ x h₂ y h₃, h = h₁ ++ x :: (h₂ ++ y :: h₃) → ∀ i j e e',
    x.dialing? = some (i, e) → y.dialing? = some (j, e') →
    e.target.fingerprint = e'.target.fingerprint → e.lease ∉ History.lost Phase.held h₂ →
    e.lease ∈ History.removed h₂
  /-- A target with a steady entry is dialed at most once. -/
  once : ∀ f, h.Steady f → c.dialCalls.count f ≤ 1
  /-- All callers of such a target are lent the same entry, for the one dial. -/
  shared : ∀ i config, h.calls[i]? = some (.acquire config) → (Target.ofConfig config).check = .ok () →
    h.Steady (BackendConfig.fingerprint config) → ∀ a, c.answer? i = some a →
    c.dialCalls.count (BackendConfig.fingerprint config) = 1 ∧
      ∃ e, c.entry? (BackendConfig.fingerprint config) = some e ∧ a = .leased (.ok e.lease)
  /-- And a caller who is not given up is answered by the time that nothing is left to do. -/
  answered : (∀ m, m.worker?.isSome → c.move m = none) → ∀ i call, h.calls[i]? = some call →
    (∀ x ∈ h, x.move.dropped? ≠ some i) → ∃ a, c.answer? i = some a

/-- In every state that calls can reach which run side by side, at most one dial of each fingerprint is in
    flight, and none while its entry is there; inserts and removals of an entry alternate. So the callers
    of a new target share one dial, if it succeeds and nobody removes the entry. -/
theorem Run.singly_dialed (new : Cache.ofOptions backend options order = .ok c₀) (run : Run c₀ h c) :
    SinglyDialed h c := by
  have k := run.ledger new
  refine ⟨fun i j a b pa pb hi hj same => ?_, fun i a pa hi => ?_, fun x hx i a pa hi => ?_,
    run.marks_alternate new, fun h₁ x h₂ y h₃ hh i j e e' hx hy same kept => ?_,
    fun f steady => (run.count_dialCalls_le_one new steady).1,
    fun i config hcall check steady a answer => ?_, fun stuck i call hcall undropped => ?_⟩
  · obtain ⟨target, why, hp, ha⟩ := Cache.phase?_of_dial hi
    obtain ⟨target', why', hq, hb⟩ := Cache.phase?_of_dial hj
    obtain ⟨l, task⟩ := Cache.phase?_eq_some.mp hp
    obtain ⟨l', task'⟩ := Cache.phase?_eq_some.mp hq
    exact k.gated.fills_unique task task' rfl (congrArg some ((hb.trans same.symm).trans ha.symm))
  · obtain ⟨target, why, hp, ha⟩ := Cache.phase?_of_dial hi
    obtain ⟨l, task⟩ := Cache.phase?_eq_some.mp hp
    rw [← ha]
    exact k.gated.entry?_eq_none task rfl
  · obtain ⟨h₁, h₂, rfl, before, move, -⟩ := run.upTo hx
    obtain ⟨target, why, hp, ha⟩ := Cache.phase?_of_dial hi
    rw [← ha]
    exact (before.ledger new).gated.entry?_of_dialing move hp
  · subst hh
    exact run.removed_between new hx hy same kept
  · obtain ⟨e, entry, ha⟩ := run.answer_of_shared new hcall check steady answer
    exact ⟨(run.count_dialCalls_le_one new steady).2 e entry, e, entry, ha⟩
  · have admitted := run.admitted new
    obtain ⟨hlt, -⟩ := List.getElem?_eq_some_iff.mp hcall
    have task := List.getElem?_eq_getElem (admitted.length.symm ▸ hlt)
    have hp := Cache.phase?_of_task task
    exact run.answered_of_over new undropped hp (run.over_of_stuck new stuck i _ hp)

theorem Site.shared_stuck (m : Move Site Nat) (worker : m.worker?.isSome) :
    (Site.replay Site.shared).2.move m = none := by
  cases m with
  | start | drop => cases worker
  | step i => match i with
    | 0 | 1 => rfl
    | i + 2 => rfl
  | reply i r => match i with
    | 0 | 1 => rfl
    | i + 2 => rfl

theorem Site.singly_dialed_shared_and_again :
    Cache.ofOptions .keyValue .default .ofInsertion = .ok Site.cache ∧
    Run Site.cache (Site.replay Site.shared).1 (Site.replay Site.shared).2 ∧
    (Site.replay Site.shared).1.Steady ⟨[7]⟩ ∧
    (∃ a, Cache.answer? (Site.replay Site.shared).2 0 = some a) ∧
    (∃ e, Cache.entry? (Site.replay Site.shared).2 ⟨[7]⟩ = some e ∧
      CallAnswer.leased (.ok ⟨1, ⟨[7]⟩, 1⟩) = (.leased (.ok e.lease) : CallAnswer Nat)) ∧
    SinglyDialed (Site.replay Site.redialed).1 (Site.replay Site.redialed).2 ∧
    (Site.replay Site.redialed).1.marks ⟨[7]⟩ =
      [.inserted ⟨1, ⟨[7]⟩, 1⟩, .removed ⟨1, ⟨[7]⟩, 1⟩, .inserted ⟨2, ⟨[7]⟩, 2⟩] :=
  have run := Site.run Site.shared rfl
  have steady : (Site.replay Site.shared).1.Steady ⟨[7]⟩ := ⟨by decide, by decide, by decide⟩
  have singly := Run.singly_dialed Site.new run
  have second := singly.shared 1 ⟨7, ⟨2, 1, .ofSeconds 60⟩⟩ rfl rfl steady _ rfl
  ⟨Site.new, run, steady, singly.answered Site.shared_stuck 0 _ rfl (by decide), second.2,
    Run.singly_dialed Site.new (Site.run Site.redialed rfl), rfl⟩

end StoreAccess
