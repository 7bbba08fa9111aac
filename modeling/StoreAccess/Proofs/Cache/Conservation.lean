import Mathlib.Data.List.Flatten
import Mathlib.Data.List.Nodup
import StoreAccess.Proofs.Cache.Leases

/-! No handle is lost, as long as no call is given up: each one that was dialed is with the task that
    dialed it, in the cache, with one task that closes it, or closed. So what is removed is closed once,
    and what is in the cache is not closed and not overwritten. -/

namespace StoreAccess

variable {κ α : Type} [BackendConfig κ] {backend : BackendKind} {options : CacheOptions} {order : EntryOrder}
  {c₀ c d : Cache κ α} {h : History κ α} {i j : Nat} {p q : Phase κ α}

/-! ### Books without losses -/

theorem History.lost_eq_nil {β : Type} (undropped : h.Undropped) (f : Phase κ α → List β) :
    h.lost f = [] := by
  simp only [lost, List.flatMap_eq_nil_iff]
  intro x hx
  simp [Transition.lost, undropped x hx]

theorem Cache.count_owed (l : Lease) : c.owed.count l = c.closingNow.count l + c.waiting.count l := by
  simp only [owed, closingNow, waiting, inHand, Phase.owed]
  induction c.tasks with
  | nil => rfl
  | cons t ts ih =>
    simp only [List.flatMap_cons, List.count_append, ih]
    omega

namespace Ledger

theorem dialed_nodup (k : Ledger h c) : h.dialed.Nodup := k.handles_nodup.of_map _

theorem count_dialed_le (k : Ledger h c) (l : Lease) : h.dialed.count l ≤ 1 :=
  List.nodup_iff_count_le_one.mp k.dialed_nodup l

/-- A handle was dialed by one task, for one target. -/
theorem dialing_unique (k : Ledger h c) {y z : Nat × Entry κ} (hy : y ∈ h.dialings) (hz : z ∈ h.dialings)
    (same : y.2.lease = z.2.lease) : y = z :=
  List.inj_on_of_nodup_map k.dialings_nodup hy hz (congrArg Lease.handle same)

/-- What was dialed is held, there, owed or closed. -/
theorem dialed_perm (k : Ledger h c) (undropped : h.Undropped) :
    (c.held ++ c.cached ++ c.owed ++ h.closed).Perm h.dialed := by
  rw [List.perm_iff_count]
  intro l
  have dialed := k.dialed l
  have inserted := k.inserted l
  have removed := k.removed l
  simp only [History.lost_eq_nil undropped, List.count_nil] at dialed removed
  simp only [List.count_append]
  omega

theorem removed_perm (k : Ledger h c) (undropped : h.Undropped) :
    (c.closeCalls ++ c.waiting).Perm h.removed := by
  rw [List.perm_iff_count]
  intro l
  have removed := k.removed l
  have called := k.called l
  simp only [History.lost_eq_nil undropped, List.count_nil, Cache.count_owed] at removed called
  simp only [List.count_append]
  omega

theorem closeCalls_le_removed (k : Ledger h c) (l : Lease) : c.closeCalls.count l ≤ h.removed.count l := by
  have removed := k.removed l
  have called := k.called l
  have lost : (h.lost Phase.closingNow).count l ≤ (h.lost Phase.owed).count l := by
    refine (List.Sublist.flatMap_right h fun x _ => ?_).count_le l
    cases hx : x.move.dropped?.bind x.before.phase? <;> simp [Transition.lost, hx, Phase.owed]
  rw [Cache.count_owed] at removed
  omega

theorem removed_of_cached (k : Ledger h c) {l : Lease} (hl : l ∈ c.cached) : h.removed.count l = 0 := by
  have once := k.count_dialed_le l
  have dialed := k.dialed l
  have inserted := k.inserted l
  have here := List.count_pos_iff.mpr hl
  omega

theorem uncalled_of_cached (k : Ledger h c) {l : Lease} (hl : l ∈ c.cached) : l ∉ c.closeCalls := by
  have called := k.closeCalls_le_removed l
  rw [k.removed_of_cached hl] at called
  exact List.count_eq_zero.mp (Nat.le_zero.mp called)

end Ledger

/-! ### Places -/

/-- A place where a dialed handle can be. -/
inductive Place where
  /-- With the task that dialed it. -/
  | held (task : Nat)
  | cached
  /-- With a task that has removed it, to close it. -/
  | owed (task : Nat)
  | closed

/-- The handle of `e` is at this place. -/
def Cache.At (c : Cache κ α) (h : History κ α) (e : Entry κ) : Place → Prop
  | .held i => ∃ why, c.phase? i = some (.inserting e why)
  | .cached => c.entry? e.target.fingerprint = some e
  | .owed i => ∃ p, c.phase? i = some p ∧ e.lease ∈ p.owed
  | .closed => e.lease ∈ h.closed

namespace Cache

theorem mem_inHand {β : Type} {f : Phase κ α → List β} {y : β} :
    y ∈ c.inHand f ↔ ∃ i p, c.phase? i = some p ∧ y ∈ f p := by
  simp only [inHand, List.mem_flatMap, phase?, Option.map_eq_some_iff]
  constructor
  · rintro ⟨t, ht, hy⟩
    obtain ⟨i, ht⟩ := List.mem_iff_getElem?.mp ht
    exact ⟨i, _, ⟨t, ht, rfl⟩, hy⟩
  · rintro ⟨i, _, ⟨t, ht, rfl⟩, hy⟩
    exact ⟨t, List.mem_of_getElem? ht, hy⟩

/-- What is there once is in the hand of one task. -/
theorem inHand_unique {β : Type} [DecidableEq β] {f : Phase κ α → List β} {y : β} (hf : f .dropped = [])
    (once : (c.inHand f).count y ≤ 1) (hi : c.phase? i = some p) (hj : c.phase? j = some q)
    (hp : y ∈ f p) (hq : y ∈ f q) : i = j := by
  by_contra hij
  obtain ⟨l, hi⟩ := phase?_eq_some.mp hi
  obtain ⟨l', hj⟩ := phase?_eq_some.mp hj
  -- Without task `i`, task `j` still has it.
  have without := count_flatMap_set (fun t : Task κ α => f t.phase) ⟨.dropped, none⟩ y hi
  have rest : 0 < ((c.tasks.set i ⟨.dropped, none⟩).flatMap fun t => f t.phase).count y :=
    List.count_pos_iff.mpr (List.mem_flatMap.mpr ⟨⟨q, l'⟩, List.mem_iff_getElem?.mpr
      ⟨j, by rw [List.getElem?_set_ne hij, hj]⟩, hq⟩)
  have here := List.count_pos_iff.mpr hp
  simp only [hf, List.count_nil] at without
  rw [inHand] at once
  omega

theorem entry?_of_mem (g : c.Gated) {e : Entry κ} (he : e ∈ c.entries) :
    c.entry? e.target.fingerprint = some e := by
  have hcached := g.filter_cached e.target.fingerprint
  cases hentry : c.entry? e.target.fingerprint with
  | none => exact absurd rfl (entry?_eq_none.mp hentry e he)
  | some e' =>
    obtain ⟨he', hf⟩ := entry?_eq_some hentry
    exact congrArg some (List.inj_on_of_nodup_map g.keyed he' he hf)

theorem Gated.cached_unique (g : c.Gated) {a b : Lease} (ha : a ∈ c.cached) (hb : b ∈ c.cached)
    (same : a.fingerprint = b.fingerprint) : a = b := by
  obtain ⟨e, he, rfl⟩ := List.mem_map.mp ha
  obtain ⟨e', he', rfl⟩ := List.mem_map.mp hb
  exact congrArg Entry.lease (List.inj_on_of_nodup_map g.keyed he he' same)

end Cache

namespace Origins

variable {e : Entry κ}

/-- A dialed handle that is in the hand of a task is there as the entry for which it was dialed. -/
theorem at_held (origins : Origins h c) (k : Ledger h c) (hi : (i, e) ∈ h.dialings)
    (hl : e.lease ∈ c.held) : c.At h e (.held i) := by
  obtain ⟨j, p, hp, hl⟩ := Cache.mem_inHand.mp hl
  cases p with
  | inserting e' why =>
    have hj := (origins.tasks j _ hp).held e' why rfl
    have same : (j, e') = (i, e) := k.dialing_unique hj hi (List.mem_singleton.mp hl).symm
    cases same
    exact ⟨why, hp⟩
  | _ => cases hl

theorem at_cached (origins : Origins h c) (k : Ledger h c) (hi : (i, e) ∈ h.dialings)
    (hl : e.lease ∈ c.cached) : c.At h e .cached := by
  obtain ⟨e', he', hl⟩ := List.mem_map.mp hl
  obtain ⟨j, hj⟩ := origins.cached e' he'
  have same : (j, e') = (i, e) := k.dialing_unique hj hi hl
  cases same
  exact Cache.entry?_of_mem k.gated he'

/-- A dialed handle that stands in the books is at a place. -/
theorem at_of_booked (origins : Origins h c) (k : Ledger h c) (hi : (i, e) ∈ h.dialings)
    (booked : e.lease ∈ c.held ++ c.cached ++ c.owed ++ h.closed) : ∃ p, c.At h e p := by
  simp only [List.mem_append] at booked
  rcases booked with ((held | cached) | owed) | closed
  · exact ⟨_, origins.at_held k hi held⟩
  · exact ⟨_, origins.at_cached k hi cached⟩
  · obtain ⟨j, p, hp, hl⟩ := Cache.mem_inHand.mp owed
    exact ⟨.owed j, p, hp, hl⟩
  · exact ⟨.closed, closed⟩

theorem at_somewhere (origins : Origins h c) (k : Ledger h c) (undropped : h.Undropped)
    (hi : (i, e) ∈ h.dialings) : ∃ p, c.At h e p := by
  have dialed : e.lease ∈ h.dialed := by
    rw [History.dialed_eq]
    exact List.mem_map.mpr ⟨(i, e), hi, rfl⟩
  exact origins.at_of_booked k hi ((k.dialed_perm undropped).mem_iff.mpr dialed)

end Origins

/-- The part of the books in which a handle at this place stands. -/
def Cache.entered (c : Cache κ α) (h : History κ α) : Place → List Lease
  | .held _ => c.held
  | .cached => c.cached
  | .owed _ => c.owed
  | .closed => h.closed

theorem Cache.At.entered {e : Entry κ} : ∀ {p : Place}, c.At h e p → e.lease ∈ c.entered h p
  | .held i, ⟨_, hp⟩ => mem_inHand.mpr ⟨i, _, hp, List.mem_singleton_self _⟩
  | .cached, he => List.mem_map_of_mem (entry?_eq_some he).1
  | .owed i, ⟨p, hp, hl⟩ => mem_inHand.mpr ⟨i, p, hp, hl⟩
  | .closed, hl => hl

/-- A handle that stands in the books once is at one place. -/
theorem Cache.At.unique {e : Entry κ} {a b : Place}
    (once : (c.held ++ c.cached ++ c.owed ++ h.closed).count e.lease ≤ 1) (ha : c.At h e a)
    (hb : c.At h e b) : a = b := by
  have inA := List.count_pos_iff.mpr ha.entered
  have inB := List.count_pos_iff.mpr hb.entered
  simp only [List.count_append] at once
  cases a with
  | held i =>
    cases b with
    | held j =>
      obtain ⟨_, hp⟩ := ha
      obtain ⟨_, hq⟩ := hb
      have held : c.held.count e.lease ≤ 1 := by omega
      exact congrArg Place.held
        (Cache.inHand_unique rfl held hp hq (List.mem_singleton_self _) (List.mem_singleton_self _))
    | _ => simp only [Cache.entered] at inA inB; omega
  | cached =>
    cases b with
    | cached => rfl
    | _ => simp only [Cache.entered] at inA inB; omega
  | owed i =>
    cases b with
    | owed j =>
      obtain ⟨_, hp, hl⟩ := ha
      obtain ⟨_, hq, hl'⟩ := hb
      have owed : c.owed.count e.lease ≤ 1 := by omega
      exact congrArg Place.owed (Cache.inHand_unique rfl owed hp hq hl hl')
    | _ => simp only [Cache.entered] at inA inB; omega
  | closed =>
    cases b with
    | closed => rfl
    | _ => simp only [Cache.entered] at inA inB; omega

theorem Ledger.at_unique (k : Ledger h c) (undropped : h.Undropped) {e : Entry κ} {a b : Place}
    (ha : c.At h e a) (hb : c.At h e b) : a = b := by
  refine Cache.At.unique ?_ ha hb
  rw [(k.dialed_perm undropped).count_eq]
  exact k.count_dialed_le e.lease

/-! ### Closing what is owed -/

namespace Cache

/-- An answer of the client takes a task that closes a handle on. -/
theorem move_closed {e : Entry κ} {why : Aftermath κ} (hp : c.phase? i = some (.closing e why)) :
    ∃ d, c.move (.reply i .success) = some d ∧ d.phase? i = some (.afterRemoval why true) ∧
      (Transition.mk c (.reply i .success) d).closed = [e.lease] := by
  obtain ⟨l, task⟩ := phase?_eq_some.mp hp
  have enters : c.Enters i (.afterRemoval why true) ((c.tally .close).removed i why true) :=
    Enters.tally (t := .close) (by simp) (enters_removed _ i why true)
  refine ⟨(c.tally .close).removed i why true, ?_, enters.phase?_eq rfl task, ?_⟩
  · simp [move, reply, task]
  · simp [Transition.closed, hp]

theorem closes_last {e : Entry κ} {why : Aftermath κ} (hp : c.phase? i = some (.closing e why))
    (last : why.waiting = []) : ∃ h' d, Run c h' d ∧ (∀ x ∈ h', x.move = .reply i .success) ∧
      h'.closed = e.lease :: why.waiting := by
  obtain ⟨d, move, -, hclosed⟩ := move_closed hp
  refine ⟨[⟨c, _, d⟩], d, Run.nil.snoc move, fun x hx => ?_, ?_⟩
  · rw [List.mem_singleton.mp hx]
  · simp [History.closed, hclosed, last]

/-- A task that closes a handle closes all that it owes, if the client answers. -/
theorem closes_owed {e : Entry κ} {why : Aftermath κ} (hp : c.phase? i = some (.closing e why)) :
    ∃ h' d, Run c h' d ∧ (∀ x ∈ h', x.move = .reply i .success) ∧
      h'.closed = e.lease :: why.waiting := by
  cases why with
  | caller | attempt | probe => exact closes_last hp rfl
  | clear rest =>
    -- Induction on what is still to be closed; each answer takes the task to the next entry.
    induction rest generalizing c e with
    | nil => exact closes_last hp rfl
    | cons e' rest ih =>
      obtain ⟨d, move, hnext, hclosed⟩ := move_closed hp
      obtain ⟨h', d', run, replies, hrest⟩ := ih (c := d) (e := e') hnext
      refine ⟨⟨c, _, d⟩ :: h', d', run.cons move, fun x hx => ?_, ?_⟩
      · rcases List.mem_cons.mp hx with rfl | hx
        · rfl
        · exact replies x hx
      · have hcons : History.closed (⟨c, .reply i .success, d⟩ :: h') = [e.lease] ++ h'.closed :=
          congrArg (· ++ History.closed h') hclosed
        rw [hcons, hrest]
        rfl

/-- A task that owes something closes a handle. -/
theorem Admitted.closing_of_owed {calls : List (Call κ)} (a : Admitted calls c) {l : Lease}
    (hp : c.phase? i = some p) (hl : l ∈ p.owed) : ∃ e why, p = .closing e why := by
  obtain ⟨lock, task⟩ := phase?_eq_some.mp hp
  obtain ⟨call, -, admits⟩ := a.call_of_task task
  cases p with
  | closing e why => exact ⟨e, why, rfl⟩
  | removingLease lease why =>
    -- Whoever clears the cache removes no entry of a lease.
    cases why with
    | clear => exact False.elim admits
    | _ => cases hl
  | _ => cases hl

end Cache

/-! ### Conservation -/

/-- Where the dialed handles are, and how often each is closed. -/
structure Conserved (h : History κ α) (c : Cache κ α) : Prop where
  /-- Each dialed handle is at exactly one place. -/
  place : ∀ i e, (i, e) ∈ h.dialings → ∃! p, c.At h e p
  /-- A task that holds a handle has dialed it. -/
  holder : ∀ i j e, (i, e) ∈ h.dialings → c.At h e (.held j) → j = i
  /-- The places have all that was dialed between them, each handle once. -/
  books : (c.held ++ c.cached ++ c.owed ++ h.closed).Perm h.dialed ∧ h.dialed.Nodup
  /-- Who owes a handle closes it, and needs only the client's answers for it. -/
  owner : ∀ i e, c.At h e (.owed i) →
    ∃ h' d, Run c h' d ∧ (∀ x ∈ h', x.move = .reply i .success) ∧ e.lease ∈ h'.closed
  /-- The client was told once to close each handle that was removed, but for those that wait. -/
  calls : (c.closeCalls ++ c.waiting).Perm h.removed ∧ c.closeCalls.Nodup
  /-- Once all calls are over nothing waits. -/
  ended : (∀ i p, c.phase? i = some p → p.isOver = true) →
    c.closeCalls.Perm h.removed ∧ h.closed.Perm h.removed
  /-- The client was not told to close what is in the cache. -/
  kept : ∀ e ∈ c.entries, e.lease ∉ c.closeCalls
  /-- Where an entry is put in there is none. -/
  fresh : ∀ i e why, c.phase? i = some (.inserting e why) → c.entry? e.target.fingerprint = none

theorem Cache.inHand_eq_nil {β : Type} {f : Phase κ α → List β} (hf : ∀ p, p.isOver = true → f p = [])
    (ended : ∀ i p, c.phase? i = some p → p.isOver = true) : c.inHand f = [] := by
  rw [List.eq_nil_iff_forall_not_mem]
  intro y hy
  obtain ⟨i, p, hp, hy⟩ := mem_inHand.mp hy
  rw [hf p (ended i p hp)] at hy
  cases hy

/-- In every state that calls can reach which run side by side and are not given up, each dialed handle is
    held by the task that dialed it, cached under its fingerprint, owed by the one task that closes it, or
    closed. A removed handle is closed once, a cached one is not, and no entry is overwritten. -/
theorem Run.handles_conserved (new : Cache.ofOptions backend options order = .ok c₀) (run : Run c₀ h c)
    (undropped : h.Undropped) : Conserved h c := by
  have k := run.ledger new
  have origins := run.origins new
  have calls := k.removed_perm undropped
  refine ⟨fun i e hi => ?_, fun i j e hi hj => ?_, ⟨k.dialed_perm undropped, k.dialed_nodup⟩,
    fun i e he => ?_, ⟨calls, ?_⟩, fun ended => ?_, fun e he => ?_, fun i e why hp => ?_⟩
  · obtain ⟨p, hp⟩ := origins.at_somewhere k undropped hi
    exact ⟨p, hp, fun q hq => k.at_unique undropped hq hp⟩
  · obtain ⟨why, hp⟩ := hj
    have same := k.dialing_unique ((origins.tasks j _ hp).held e why rfl) hi rfl
    exact congrArg Prod.fst same
  · obtain ⟨p, hp, hl⟩ := he
    obtain ⟨e', why, rfl⟩ := (run.admitted new).closing_of_owed hp hl
    obtain ⟨h', d, closing, replies, hclosed⟩ := Cache.closes_owed hp
    exact ⟨h', d, closing, replies, by rw [hclosed]; exact hl⟩
  · rw [List.nodup_iff_count_le_one]
    intro l
    have called := k.closeCalls_le_removed l
    have inserted := k.inserted l
    have dialed := k.dialed l
    have once := k.count_dialed_le l
    omega
  · have waiting : c.waiting = [] := Cache.inHand_eq_nil (fun p hp => by cases p <;> first | rfl | cases hp) ended
    have owed : c.owed = [] := Cache.inHand_eq_nil (fun p hp => by cases p <;> first | rfl | cases hp) ended
    rw [waiting, List.append_nil] at calls
    refine ⟨calls, List.perm_iff_count.mpr fun l => ?_⟩
    have removed := k.removed l
    simp only [owed, History.lost_eq_nil undropped, List.count_nil] at removed
    omega
  · exact k.uncalled_of_cached (List.mem_map_of_mem he)
  · obtain ⟨l, task⟩ := Cache.phase?_eq_some.mp hp
    exact k.gated.entry?_eq_none task rfl

theorem Site.evicted_handle_conserved :
    Cache.ofOptions .keyValue .default .ofInsertion = .ok Site.cache ∧
    Run Site.cache (Site.replay Site.evicted).1 (Site.replay Site.evicted).2 ∧
    (Site.replay Site.evicted).1.Undropped ∧
    Conserved (Site.replay Site.evicted).1 (Site.replay Site.evicted).2 ∧
    (Site.replay Site.evicted).1.removed = [⟨1, ⟨[7]⟩, 1⟩] ∧
    (Site.replay Site.evicted).2.closeCalls = [⟨1, ⟨[7]⟩, 1⟩] :=
  have run := Site.run Site.evicted rfl
  have undropped : (Site.replay Site.evicted).1.Undropped := by unfold History.Undropped; decide
  ⟨Site.new, run, undropped, Run.handles_conserved Site.new run undropped, rfl, rfl⟩

end StoreAccess
