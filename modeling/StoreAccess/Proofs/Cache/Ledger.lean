import StoreAccess.Proofs.Cache.Gates
import StoreAccess.Proofs.Cache.Runs

/-! Where the handles of a cache are. Each goes one way: dialed and held, put in, removed and owed, closed.
    A move passes handles on from one place to the next (`Flow`), so over a run what went into a place is
    what went on from it and what is still there (`Ledger`). -/

namespace StoreAccess

/-- The handle that a request is to close. -/
def Request.closes? {κ : Type} : Request κ → Option Lease
  | .close l => some l
  | _ => none

namespace Cache

variable {κ α : Type} [BackendConfig κ]

/-- What the tasks have in hand, all together. -/
def inHand {β : Type} (f : Phase κ α → List β) (c : Cache κ α) : List β :=
  c.tasks.flatMap fun t => f t.phase

/-- The handles that were dialed and not put in yet. -/
def held (c : Cache κ α) : List Lease := c.inHand Phase.held

/-- The handles that are being closed. -/
def closingNow (c : Cache κ α) : List Lease := c.inHand Phase.closingNow

/-- The handles that were removed and are closed later. -/
def waiting (c : Cache κ α) : List Lease := c.inHand Phase.waiting

/-- The handles that were removed and are being closed, or are closed later. -/
def owed (c : Cache κ α) : List Lease := c.inHand Phase.owed

/-- The handles that the client was told to close. -/
def closeCalls (c : Cache κ α) : List Lease := c.requests.filterMap fun x => x.2.closes?

variable {c c' d : Cache κ α} {i : Nat} {p q : Phase κ α} {l : Option Lock}

theorem Enters.count_inHand {β : Type} [DecidableEq β] (f : Phase κ α → List β) (h : c'.Enters i q d)
    (hc : c'.tasks = c.tasks) (ht : c.tasks[i]? = some ⟨p, l⟩) (y : β) :
    (d.inHand f).count y + (f p).count y = (c.inHand f).count y + (f q).count y := by
  rw [inHand, h.tasks, hc]
  exact count_flatMap_set (fun t => f t.phase) _ y ht

theorem Enters.closeCalls_eq (h : c'.Enters i q d) (hc : c'.events = c.events) :
    d.closeCalls = c.closeCalls ++ q.closingNow := by
  rw [closeCalls, h.requests, List.filterMap_append, Cache.requests, hc]
  congr 1
  cases q <;> rfl

theorem Enters.cached_eq (h : c'.Enters i q d) : d.cached = c'.cached := by rw [cached, h.entries]; rfl

/-- The entry of a target is the only one lent under its fingerprint. -/
theorem Gated.filter_cached (g : Gated c) (f : Fingerprint) :
    (c.cached.filter fun l => l.fingerprint == f) = ((c.entry? f).map Entry.lease).toList := by
  have aux : ∀ es : List (Entry κ), (es.map fun e => e.target.fingerprint).Nodup →
      ((es.map Entry.lease).filter fun l => l.fingerprint == f) =
        ((es.find? fun e => e.target.fingerprint == f).map Entry.lease).toList := by
    intro es hes
    induction es with
    | nil => rfl
    | cons e es ih =>
      rw [List.map_cons, List.nodup_cons] at hes
      by_cases hf : e.target.fingerprint = f
      · have hnone : (es.map Entry.lease).filter (fun l => l.fingerprint == f) = [] := by
          rw [List.filter_eq_nil_iff]
          intro l hl hlf
          obtain ⟨e', he', rfl⟩ := List.mem_map.mp hl
          have hlf : e'.target.fingerprint = f := beq_iff_eq.mp hlf
          exact hes.1 (List.mem_map.mpr ⟨e', he', hlf.trans hf.symm⟩)
        simp [hf, hnone]
      · simp [hf, ih hes.2]
  exact aux c.entries g.keyed

end Cache

/-! ### What a move passes on -/

namespace Transition

variable {κ α : Type} [BackendConfig κ]

/-- What comes to a place goes on from it or stays there. -/
structure Flow (x : Transition κ α) : Prop where
  held : ∀ l, x.before.held.count l + x.dialed.count l =
    x.after.held.count l + x.inserted.count l + (x.lost Phase.held).count l
  cached : ∀ l, x.before.cached.count l + x.inserted.count l = x.after.cached.count l + x.removed.count l
  owed : ∀ l, x.before.owed.count l + x.removed.count l =
    x.after.owed.count l + x.closed.count l + (x.lost Phase.owed).count l
  called : ∀ l, x.after.closeCalls.count l + x.before.closingNow.count l =
    x.before.closeCalls.count l + x.after.closingNow.count l + x.closed.count l +
      (x.lost Phase.closingNow).count l

variable {c d : Cache κ α} {m : Move κ α} {i : Nat} {p q : Phase κ α}

theorem dialed_of_held (hm : m.worker? = some i) (hq : d.phase? i = some q) (held : q.held = []) :
    (Transition.mk c m d).dialed = [] := by
  cases m with
  | start | drop => cases hm
  | step => rfl
  | reply j r =>
    cases hm
    cases r with
    | value | failure | overdue => rfl
    | success =>
      -- Only a task that is about to put an entry in has just dialed one.
      cases q with
      | inserting => cases held
      | _ => simp [dialed, dialing?, hq]

theorem closed_of_idle (hm : m.worker? = some i) (hp : c.phase? i = some p) (idle : p.closingNow = []) :
    (Transition.mk c m d).closed = [] := by
  cases m with
  | start | drop => cases hm
  | step => rfl
  | reply j r =>
    cases hm
    cases p with
    | closing => cases idle
    | _ => simp [closed, hp]

theorem lost_of_worker {β : Type} (f : Phase κ α → List β) (hm : m.worker? = some i) :
    (Transition.mk c m d).lost f = [] := by
  cases m <;> first | rfl | cases hm

/-! #### Entries -/

theorem inserted_of_subset (h : ∀ l ∈ d.cached, l ∈ c.cached) : (Transition.mk c m d).inserted = [] := by
  simp only [inserted, List.filter_eq_nil_iff, decide_eq_true_eq, Decidable.not_not]
  exact h

theorem inserted_of_filter {P : Lease → Bool} (h : d.cached = c.cached.filter P) :
    (Transition.mk c m d).inserted = [] := by
  refine inserted_of_subset fun l hl => ?_
  rw [h] at hl
  exact (List.mem_filter.mp hl).1

theorem removed_of_filter {P : Lease → Bool} (h : d.cached = c.cached.filter P) :
    (Transition.mk c m d).removed = c.cached.filter fun l => !P l := by
  simp only [removed, h]
  apply List.filter_congr
  intro l hl
  cases hP : P l <;> simp [hl, hP]

theorem inserted_of_append {l : Lease} (h : d.cached = c.cached ++ [l]) (hl : l ∉ c.cached) :
    (Transition.mk c m d).inserted = [l] := by
  have hold : (c.cached.filter fun l => l ∉ c.cached) = [] := by simp
  rw [inserted, h, List.filter_append, hold]
  simp [hl]

theorem removed_of_append {l : Lease} (h : d.cached = c.cached ++ [l]) :
    (Transition.mk c m d).removed = [] := by
  simp only [removed, h, List.filter_eq_nil_iff, List.mem_append, decide_eq_true_eq, Decidable.not_not]
  exact fun l hl => Or.inl hl

theorem inserted_of_eq (h : d.cached = c.cached) : (Transition.mk c m d).inserted = [] :=
  inserted_of_filter (P := fun _ => true) (by rw [h, List.filter_eq_self.mpr fun _ _ => rfl])

theorem removed_of_eq (h : d.cached = c.cached) : (Transition.mk c m d).removed = [] := by
  rw [removed_of_filter (P := fun _ => true) (by rw [h, List.filter_eq_self.mpr fun _ _ => rfl])]
  simp

theorem cached_put {e : Entry κ} (absent : ∀ e' ∈ c.entries, e'.target.fingerprint ≠ e.target.fingerprint) :
    (c.put e).cached = c.cached ++ [e.lease] := by
  have hkeep : (c.erase e.target.fingerprint).entries = c.entries := by
    simp only [Cache.erase, List.filter_eq_self, bne_iff_ne]
    exact absent
  simp [Cache.cached, Cache.put, hkeep]

theorem cached_erase (f : Fingerprint) :
    (c.erase f).cached = c.cached.filter fun l => l.fingerprint != f := by
  simp only [Cache.cached, Cache.erase, List.filter_map]
  rfl

theorem filter_of_entry (g : c.Gated) {f : Fingerprint} {e : Entry κ} (entry : c.entry? f = some e) :
    (c.cached.filter fun l => !(l.fingerprint != f)) = [e.lease] := by
  have hf := g.filter_cached f
  rw [entry] at hf
  simpa [bne] using hf

theorem removed_of_entry (g : c.Gated) {f : Fingerprint} {e : Entry κ} (entry : c.entry? f = some e)
    (h : d.cached = (c.erase f).cached) : (Transition.mk c m d).removed = [e.lease] :=
  (removed_of_filter (h.trans (cached_erase f))).trans (filter_of_entry g entry)

theorem cached_cases (g : c.Gated) (move : c.move m = some d) :
    (∀ l ∈ d.cached, l ∈ c.cached) ∨
      ∃ l, d.cached = c.cached ++ [l] ∧ ∀ l' ∈ c.cached, l'.fingerprint ≠ l.fingerprint := by
  have kept : ∀ {c' : Cache κ α} {i : Nat} {q : Phase κ α}, c'.Enters i q d →
      (∀ e ∈ c'.entries, e ∈ c.entries) → ∀ l ∈ d.cached, l ∈ c.cached := fun enters hsub l hl => by
    rw [enters.cached_eq] at hl
    obtain ⟨e, he, rfl⟩ := List.mem_map.mp hl
    exact List.mem_map_of_mem (hsub e he)
  have effect := Cache.effect_of_move move
  cases effect with
  | start | lock => exact Or.inl fun _ hl => hl
  | pass _ _ enters | queue _ enters | dial _ _ _ enters | dialed _ enters | leave _ _ enters
    | closed _ enters | drop _ enters => exact Or.inl (kept enters fun _ he => he)
  | remove _ _ _ _ enters => exact Or.inl (kept enters fun _ he => (Cache.mem_erase.mp he).1)
  | drain _ _ enters => exact Or.inl (kept enters fun _ he => by cases he)
  | @insert i e _ _ _ _ task _ enters =>
    have absent := g.absent i _ _ task rfl
    refine Or.inr ⟨e.lease, enters.cached_eq.trans (cached_put absent), fun l' hl' => ?_⟩
    obtain ⟨e', he', rfl⟩ := List.mem_map.mp hl'
    exact absent e' he'

/-! #### The cases -/

/-- A task goes on: what it dials and puts in passes through its hands, and so does what it removes and
    closes. -/
theorem flow_of_work {c' : Cache κ α} {l : Option Lock} {dials ins outs ends : List Lease}
    (hm : m.worker? = some i) (h : c'.Enters i q d) (htasks : c'.tasks = c.tasks)
    (hevents : c'.events = c.events) (ht : c.tasks[i]? = some ⟨p, l⟩)
    (hdials : (Transition.mk c m d).dialed = dials) (hins : (Transition.mk c m d).inserted = ins)
    (houts : (Transition.mk c m d).removed = outs) (hends : (Transition.mk c m d).closed = ends)
    (held : (p.held ++ dials).Perm (q.held ++ ins)) (cached : (c.cached ++ ins).Perm (d.cached ++ outs))
    (owed : (p.owed ++ outs).Perm (q.owed ++ ends)) (closing : p.closingNow = ends) :
    (Transition.mk c m d).Flow where
  held y := by
    have htask := h.count_inHand Phase.held htasks ht y
    have hflow := held.count_eq y
    rw [hdials, hins, lost_of_worker _ hm]
    simp only [Cache.held, List.count_append, List.count_nil] at hflow ⊢
    omega
  cached y := by
    have hflow := cached.count_eq y
    rw [hins, houts]
    simpa only [List.count_append] using hflow
  owed y := by
    have htask := h.count_inHand Phase.owed htasks ht y
    have hflow := owed.count_eq y
    rw [houts, hends, lost_of_worker _ hm]
    simp only [Cache.owed, List.count_append, List.count_nil] at hflow ⊢
    omega
  called y := by
    have htask := h.count_inHand Phase.closingNow htasks ht y
    rw [hends, lost_of_worker _ hm, h.closeCalls_eq hevents, ← closing]
    simp only [Cache.closingNow, List.count_append, List.count_nil]
    omega

/-- A task goes on with the same handles to close. -/
theorem flow_of_pass {c' : Cache κ α} {l : Option Lock} (hm : m.worker? = some i) (h : c'.Enters i q d)
    (htasks : c'.tasks = c.tasks) (hevents : c'.events = c.events) (hentries : c'.entries = c.entries)
    (ht : c.tasks[i]? = some ⟨p, l⟩) (hp : p.held = []) (idle : p.closingNow = []) (hq : q.held = [])
    (howed : q.owed = p.owed) : (Transition.mk c m d).Flow := by
  have hcached : d.cached = c.cached := by rw [Cache.cached, h.entries, hentries, Cache.cached]
  refine flow_of_work hm h htasks hevents ht (dialed_of_held hm (h.phase?_eq htasks ht) hq)
    (inserted_of_eq hcached) (removed_of_eq hcached)
    (closed_of_idle hm (Cache.phase?_of_task ht) idle) ?_ ?_ ?_ idle
  · rw [hp, hq]
  · rw [hcached]
  · rw [howed]

theorem flow_dialed {target : Target κ} {why : Purpose κ} {l : Option Lock}
    (ht : c.tasks[i]? = some ⟨.dialing target why, l⟩)
    (h : c.handleMade.Enters i (.inserting (c.newEntry target) why) d) :
    (Transition.mk c (.reply i .success) d).Flow := by
  have hcached : d.cached = c.cached := h.cached_eq
  have hdialed : (Transition.mk c (.reply i .success) d).dialed = [(c.newEntry target).lease] := by
    simp [dialed, dialing?, Cache.phase?_of_task ht, h.phase?_eq (c := c) rfl ht]
  refine flow_of_work rfl h rfl rfl ht hdialed (inserted_of_eq hcached) (removed_of_eq hcached)
    (closed_of_idle rfl (Cache.phase?_of_task ht) rfl) ?_ ?_ ?_ rfl
  · exact List.Perm.refl _
  · rw [hcached]
  · exact List.Perm.refl _

theorem flow_insert (g : c.Gated) {e : Entry κ} {why : Purpose κ} {l : Option Lock}
    (ht : c.tasks[i]? = some ⟨.inserting e why, l⟩) (there : q.Free)
    (h : ((c.put e).leave i).Enters i q d) : (Transition.mk c (.step i) d).Flow := by
  have absent := g.absent i _ _ ht rfl
  have hcached : d.cached = c.cached ++ [e.lease] := h.cached_eq.trans (cached_put absent)
  have hnew : e.lease ∉ c.cached := fun hmem => by
    obtain ⟨e', he', hl⟩ := List.mem_map.mp hmem
    exact absent e' he' (congrArg Lease.fingerprint hl)
  refine flow_of_work rfl h rfl rfl ht (dialed_of_held rfl (h.phase?_eq (c := c) rfl ht) there.held)
    (inserted_of_append hcached hnew) (removed_of_append hcached)
    (closed_of_idle rfl (Cache.phase?_of_task ht) rfl) ?_ ?_ ?_ rfl
  · rw [there.held]
    exact List.Perm.refl _
  · rw [hcached, List.append_nil]
  · rw [there.owed]
    exact List.Perm.refl _

theorem flow_remove (g : c.Gated) {f : Fingerprint} {why : Aftermath κ} {l : Option Lock} {e : Entry κ}
    (ht : c.tasks[i]? = some ⟨p, l⟩) (here : p.Owes why.waiting) (idle : p.closingNow = [])
    (entry : c.entry? f = some e) (h : (c.erase f).Enters i (.closing e why) d) :
    (Transition.mk c (.step i) d).Flow := by
  have hcached : d.cached = c.cached.filter fun l => l.fingerprint != f := h.cached_eq.trans (cached_erase f)
  have hremoved : (Transition.mk c (.step i) d).removed = [e.lease] := removed_of_entry g entry h.cached_eq
  refine flow_of_work rfl h rfl rfl ht (dialed_of_held rfl (h.phase?_eq (c := c) rfl ht) rfl)
    (inserted_of_filter hcached) hremoved (closed_of_idle rfl (Cache.phase?_of_task ht) idle) ?_ ?_ ?_ idle
  · rw [here.held]
    exact List.Perm.refl _
  · rw [List.append_nil, hcached, ← filter_of_entry g entry]
    exact (List.filter_append_perm _ c.cached).symm
  · rw [here.owed, List.append_nil]
    exact List.perm_append_singleton _ _

theorem flow_drain {l : Option Lock} {es : List (Entry κ)} (ht : c.tasks[i]? = some ⟨.draining, l⟩)
    (all : es.Perm c.entries) (h : Cache.Enters { c with entries := [] } i (.toClose es) d) :
    (Transition.mk c (.step i) d).Flow := by
  have hnil : d.cached = [] := h.cached_eq
  have hcached : d.cached = c.cached.filter fun _ => false := hnil.trans (by simp)
  have hremoved : (Transition.mk c (.step i) d).removed = c.cached := by
    rw [removed_of_filter hcached]
    simp
  have owes := Phase.owes_toClose (α := α) es
  refine flow_of_work rfl h rfl rfl ht (dialed_of_held rfl (h.phase?_eq (c := c) rfl ht) owes.held)
    (inserted_of_filter hcached) hremoved (closed_of_idle rfl (Cache.phase?_of_task ht) rfl) ?_ ?_ ?_ rfl
  · rw [owes.held]
    exact List.Perm.refl _
  · rw [hnil, List.append_nil, List.nil_append]
  · rw [owes.owed, List.append_nil]
    exact (all.map Entry.lease).symm

theorem flow_closed {e : Entry κ} {why : Aftermath κ} {l : Option Lock} {r : Reply α}
    (ht : c.tasks[i]? = some ⟨.closing e why, l⟩) (h : c.Enters i (.afterRemoval why true) d) :
    (Transition.mk c (.reply i r) d).Flow := by
  have hcached : d.cached = c.cached := h.cached_eq
  have owes := Phase.owes_afterRemoval (α := α) why true
  have hclosed : (Transition.mk c (.reply i r) d).closed = [e.lease] := by
    simp [closed, Cache.phase?_of_task ht]
  refine flow_of_work rfl h rfl rfl ht (dialed_of_held rfl (h.phase?_eq rfl ht) owes.held)
    (inserted_of_eq hcached) (removed_of_eq hcached) hclosed ?_ ?_ ?_ rfl
  · rw [owes.held]
    exact List.Perm.refl _
  · rw [hcached]
  · rw [owes.owed, List.append_nil]
    exact (List.perm_append_singleton _ _).symm

theorem flow_drop {l : Option Lock} (ht : c.tasks[i]? = some ⟨p, l⟩) (h : (c.leave i).Enters i .dropped d) :
    (Transition.mk c (.drop i) d).Flow := by
  have hcached : d.cached = c.cached := h.cached_eq
  have hlost : ∀ f : Phase κ α → List Lease, (Transition.mk c (.drop i) d).lost f = f p := fun f => by
    simp [lost, Move.dropped?, Cache.phase?_of_task ht]
  refine ⟨fun y => ?_, fun y => ?_, fun y => ?_, fun y => ?_⟩
  · have htask : d.held.count y + p.held.count y = c.held.count y + 0 := h.count_inHand Phase.held rfl ht y
    simp only [inserted_of_eq hcached, hlost, dialed, dialing?, Option.map_none, Option.toList_none,
      List.count_nil]
    omega
  · simp [inserted_of_eq hcached, removed_of_eq hcached, hcached]
  · have htask : d.owed.count y + p.owed.count y = c.owed.count y + 0 := h.count_inHand Phase.owed rfl ht y
    simp only [removed_of_eq hcached, hlost, closed, List.count_nil]
    omega
  · have htask : d.closingNow.count y + p.closingNow.count y = c.closingNow.count y + 0 :=
      h.count_inHand Phase.closingNow rfl ht y
    simp only [hlost, h.closeCalls_eq (c := c) rfl, closed, Phase.closingNow, List.append_nil,
      List.count_nil] at htask ⊢
    omega

theorem flow_start {call : Call κ} : (Transition.mk c (.start call) (c.start call)).Flow := by
  have free := Phase.free_ofCall (α := α) call
  have hclosing : (Phase.ofCall call : Phase κ α).closingNow = [] := (List.append_eq_nil_iff.mp free.owed).1
  have hand : ∀ {f : Phase κ α → List Lease}, f (.ofCall call) = [] →
      (c.start call).inHand f = c.inHand f := fun hf => by
    simp [Cache.inHand, Cache.start, hf]
  have hcached : (c.start call).cached = c.cached := rfl
  have hcalls : (c.start call).closeCalls = c.closeCalls := rfl
  refine ⟨fun y => ?_, fun y => ?_, fun y => ?_, fun y => ?_⟩
  · simp [Cache.held, hand free.held, inserted_of_eq hcached, dialed, dialing?, lost, Move.dropped?]
  · simp [inserted_of_eq hcached, removed_of_eq hcached, hcached]
  · simp [Cache.owed, hand free.owed, removed_of_eq hcached, closed, lost, Move.dropped?]
  · simp [Cache.closingNow, hand hclosing, hcalls, closed, lost, Move.dropped?]

theorem flow_lock {l : Lock} (ht : c.tasks[i]? = some ⟨p, none⟩) :
    (Transition.mk c (.step i) { c with tasks := c.tasks.set i ⟨p, some l⟩ }).Flow := by
  have hand : ∀ (f : Phase κ α → List Lease) y,
      (Cache.inHand f { c with tasks := c.tasks.set i ⟨p, some l⟩ }).count y = (c.inHand f).count y :=
    fun f y => by
      have hset := count_flatMap_set (fun t : Task κ α => f t.phase) ⟨p, some l⟩ y ht
      exact Nat.add_right_cancel hset
  have hcached : Cache.cached { c with tasks := c.tasks.set i ⟨p, some l⟩ } = c.cached := rfl
  have hcalls : Cache.closeCalls { c with tasks := c.tasks.set i ⟨p, some l⟩ } = c.closeCalls := rfl
  refine ⟨fun y => ?_, fun y => ?_, fun y => ?_, fun y => ?_⟩
  · simp [Cache.held, hand, inserted_of_eq hcached, dialed, dialing?, lost, Move.dropped?]
  · simp [inserted_of_eq hcached, removed_of_eq hcached, hcached]
  · simp [Cache.owed, hand, removed_of_eq hcached, closed, lost, Move.dropped?]
  · simp [Cache.closingNow, hand, hcalls, closed, lost, Move.dropped?]

theorem flow_of_move (g : c.Gated) (h : c.move m = some d) : (Transition.mk c m d).Flow := by
  cases Cache.effect_of_move h with
  | start => exact flow_start
  | lock task _ => exact flow_lock task
  | pass task worker enters here idle there =>
    exact flow_of_pass worker enters rfl rfl rfl task here.held idle there.held (there.owed.trans here.owed.symm)
  | queue task enters => exact flow_of_pass rfl enters rfl rfl rfl task rfl rfl rfl rfl
  | dial task _ _ enters => exact flow_of_pass rfl enters rfl rfl rfl task rfl rfl rfl rfl
  | dialed task enters => exact flow_dialed task enters
  | leave task worker enters held owed there =>
    exact flow_of_pass worker enters rfl rfl rfl task held (List.append_eq_nil_iff.mp owed).1 there.held
      (there.owed.trans owed.symm)
  | insert task there enters => exact flow_insert g task there enters
  | remove task here idle entry enters => exact flow_remove g task here idle entry enters
  | drain task all enters => exact flow_drain task all enters
  | closed task enters => exact flow_closed task enters
  | drop task enters => exact flow_drop task enters

end Transition

/-! ### What a run has passed on -/

namespace Transition

variable {κ α : Type} [BackendConfig κ] {c d : Cache κ α} {m : Move κ α}

/-- Only a successful dial makes a handle and a generation, and it makes one of each. -/
theorem dialed_cases (h : c.move m = some d) :
    ((Transition.mk c m d).dialed = [] ∧ d.stats.dials = c.stats.dials ∧ d.generation = c.generation) ∨
      (∃ i target why, c.phase? i = some (.dialing target why) ∧
        (Transition.mk c m d).dialing? = some (i, c.newEntry target) ∧
        d.stats.dials = c.stats.dials + 1 ∧ d.generation = c.generation + 1) := by
  have quiet : ∀ {c' : Cache κ α} {i : Nat} {p q : Phase κ α} {l : Option Lock}, m.worker? = some i →
      c'.Enters i q d → c'.tasks = c.tasks → c'.stats = c.stats → c'.generation = c.generation →
      c.tasks[i]? = some ⟨p, l⟩ → q.held = [] →
      (Transition.mk c m d).dialed = [] ∧ d.stats.dials = c.stats.dials ∧ d.generation = c.generation :=
    fun hm h ht hs hg htask hq => ⟨dialed_of_held hm (h.phase?_eq ht htask) hq, by rw [h.dials, hs],
      by rw [h.generation, hg]⟩
  cases Cache.effect_of_move h with
  | start | lock => exact Or.inl ⟨rfl, rfl, rfl⟩
  | pass task worker enters _ _ there => exact Or.inl (quiet worker enters rfl rfl rfl task there.held)
  | queue task enters => exact Or.inl (quiet rfl enters rfl rfl rfl task rfl)
  | dial task _ _ enters => exact Or.inl (quiet rfl enters rfl rfl rfl task rfl)
  | @dialed i target why l _ task enters =>
    refine Or.inr ⟨i, target, why, Cache.phase?_of_task task, ?_, enters.dials, enters.generation⟩
    simp [dialing?, Cache.phase?_of_task task, enters.phase?_eq (c := c) rfl task]
  | leave task worker enters _ _ there => exact Or.inl (quiet worker enters rfl rfl rfl task there.held)
  | insert task there enters => exact Or.inl (quiet rfl enters rfl rfl rfl task there.held)
  | remove task _ _ _ enters => exact Or.inl (quiet rfl enters rfl rfl rfl task rfl)
  | drain task _ enters => exact Or.inl (quiet rfl enters rfl rfl rfl task (Phase.owes_toClose _).held)
  | closed task enters => exact Or.inl (quiet rfl enters rfl rfl rfl task (Phase.owes_afterRemoval _ _).held)
  | drop task enters => exact Or.inl ⟨rfl, enters.dials, enters.generation⟩

end Transition

/-- The books of a run: what was dialed is held, was put in or is lost; what was put in is there or was
    removed; what was removed is owed, was closed or is lost; and so for the calls that close. -/
structure Ledger {κ α : Type} [BackendConfig κ] (h : History κ α) (c : Cache κ α) : Prop where
  gated : c.Gated
  handles : h.dialed.map Lease.handle = List.range' 1 c.stats.dials
  generations : h.dialed.map Lease.generation = List.range' 1 c.generation
  dialed : ∀ l, h.dialed.count l = c.held.count l + h.inserted.count l + (h.lost Phase.held).count l
  inserted : ∀ l, h.inserted.count l = c.cached.count l + h.removed.count l
  removed : ∀ l, h.removed.count l = c.owed.count l + h.closed.count l + (h.lost Phase.owed).count l
  called : ∀ l, c.closeCalls.count l =
    c.closingNow.count l + h.closed.count l + (h.lost Phase.closingNow).count l

namespace Ledger

variable {κ α : Type} [BackendConfig κ] {h : History κ α} {c d : Cache κ α} {m : Move κ α}

theorem snoc (k : Ledger h c) (move : c.move m = some d) : Ledger (h ++ [⟨c, m, d⟩]) d := by
  obtain ⟨held, cached, owed, called⟩ := Transition.flow_of_move k.gated move
  dsimp only at held cached owed called
  have made : (History.dialed (h ++ [⟨c, m, d⟩])).map Lease.handle = List.range' 1 d.stats.dials ∧
      (History.dialed (h ++ [⟨c, m, d⟩])).map Lease.generation = List.range' 1 d.generation := by
    rw [History.dialed_snoc, List.map_append, List.map_append, k.handles, k.generations]
    rcases Transition.dialed_cases move with ⟨hd, hs, hg⟩ | ⟨i, target, why, -, hd, hs, hg⟩
    · rw [hd, hs, hg]
      simp
    · rw [hs, hg, List.range'_1_concat, List.range'_1_concat]
      simp [Transition.dialed, hd, Cache.newEntry, Nat.add_comm]
  refine ⟨k.gated.move move, made.1, made.2, fun l => ?_, fun l => ?_, fun l => ?_, fun l => ?_⟩
  · have before := k.dialed l
    have passed := held l
    simp only [History.dialed_snoc, History.inserted_snoc, History.lost_snoc, List.count_append]
    omega
  · have before := k.inserted l
    have passed := cached l
    simp only [History.inserted_snoc, History.removed_snoc, List.count_append]
    omega
  · have before := k.removed l
    have passed := owed l
    simp only [History.removed_snoc, History.closed_snoc, History.lost_snoc, List.count_append]
    omega
  · have before := k.called l
    have passed := called l
    simp only [History.closed_snoc, History.lost_snoc, List.count_append]
    omega

end Ledger

theorem Run.ledger {κ α : Type} [BackendConfig κ] {backend : BackendKind} {options : CacheOptions} {order : EntryOrder}
    {c₀ c : Cache κ α} {h : History κ α} (new : Cache.ofOptions backend options order = .ok c₀)
    (run : Run c₀ h c) : Ledger h c := by
  induction run with
  | nil =>
    rw [Cache.ofOptions_eq_ok new]
    refine ⟨⟨?_, ?_, List.nodup_nil⟩, rfl, rfl, fun _ => rfl, fun _ => rfl, fun _ => rfl, fun _ => rfl⟩ <;>
      · intro i t f hi
        cases hi
  | snoc _ move ih => exact ih.snoc move

end StoreAccess
