import StoreAccess.Proofs.Cache.DialLedger
import StoreAccess.Proofs.Cache.Progress

/-! What calls leave behind that are given up. Their locks and their places at the gates are free at once. The
    handles that such a call has in hand, dialed and not put in or removed and not closed, pass to nobody: they are
    in no place any more, and are never closed. All other handles are where they would be without it. -/

namespace StoreAccess

variable {κ α : Type} [BackendConfig κ] {backend : BackendKind} {options : CacheOptions} {order : EntryOrder}
  {c₀ c d : Cache κ α} {h h' : History κ α} {i : Nat} {p : Phase κ α} {l : Lease}

/-! ### Handles that nobody has -/

/-- The handles that a task in this phase answers for. -/
def Phase.charge (p : Phase κ α) : List Lease := p.held ++ p.owed

namespace History

/-- The handles that calls had in hand when they were given up. -/
def abandoned (h : History κ α) : List Lease := h.lost Phase.charge

theorem count_abandoned (h : History κ α) (l : Lease) :
    h.abandoned.count l = (h.lost Phase.held).count l + (h.lost Phase.owed).count l := by
  simp only [abandoned, lost]
  induction h with
  | nil => rfl
  | cons x h ih =>
    have both : x.lost Phase.charge = x.lost Phase.held ++ x.lost Phase.owed := by
      simp only [Transition.lost]
      cases x.move.dropped?.bind x.before.phase? <;> rfl
    simp only [List.flatMap_cons, List.count_append, both, ih]
    omega

end History

namespace Ledger

/-- What was dialed is held, there, owed, closed or abandoned. -/
theorem dialed_perm_abandoned (k : Ledger h c) :
    (c.held ++ c.cached ++ c.owed ++ h.closed ++ h.abandoned).Perm h.dialed := by
  rw [List.perm_iff_count]
  intro l
  have dialed := k.dialed l
  have inserted := k.inserted l
  have removed := k.removed l
  simp only [List.count_append, History.count_abandoned]
  omega

theorem booked_once (k : Ledger h c) (l : Lease) :
    (c.held ++ c.cached ++ c.owed ++ h.closed).count l + h.abandoned.count l ≤ 1 := by
  have once := k.count_dialed_le l
  rwa [← k.dialed_perm_abandoned.count_eq, List.count_append] at once

/-- An abandoned handle is at no place. -/
theorem not_at_of_abandoned (k : Ledger h c) {e : Entry κ} (gone : e.lease ∈ h.abandoned) (a : Place) :
    ¬c.At h e a := by
  intro ha
  have once := k.booked_once e.lease
  have there := List.count_pos_iff.mpr ha.entered
  have left := List.count_pos_iff.mpr gone
  simp only [List.count_append] at once
  cases a <;> simp only [Cache.entered] at there <;> omega

end Ledger

/-- A dialed handle that is not abandoned is at a place. -/
theorem Origins.at_or_abandoned {e : Entry κ} (origins : Origins h c) (k : Ledger h c)
    (hi : (i, e) ∈ h.dialings) : (∃ a, c.At h e a) ∨ e.lease ∈ h.abandoned := by
  have dialed : e.lease ∈ h.dialed := by
    rw [History.dialed_eq]
    exact List.mem_map.mpr ⟨(i, e), hi, rfl⟩
  rcases List.mem_append.mp (k.dialed_perm_abandoned.mem_iff.mpr dialed) with booked | gone
  · exact Or.inl (origins.at_of_booked k hi booked)
  · exact Or.inr gone

/-! ### Who abandons them -/

/-- A task that answers for a handle has dialed it and not put it in, or is closing handles. -/
theorem Cache.Admitted.charge_cases {calls : List (Call κ)} (a : Admitted calls c) (hp : c.phase? i = some p)
    (hl : l ∈ p.charge) :
    (∃ e why, p = .inserting e why ∧ e.lease = l) ∨ ∃ e why, p = .closing e why ∧ l ∈ p.owed := by
  rcases List.mem_append.mp hl with held | owed
  · cases p with
    | inserting e why => exact Or.inl ⟨e, why, rfl, (List.mem_singleton.mp held).symm⟩
    | _ => cases held
  · obtain ⟨e, why, rfl⟩ := a.closing_of_owed hp owed
    exact Or.inr ⟨e, why, rfl, owed⟩

theorem Run.abandoned_by (new : Cache.ofOptions backend options order = .ok c₀) (run : Run c₀ h c)
    (gone : l ∈ h.abandoned) : ∃ x ∈ h, ∃ i, x.move = .drop i ∧
      ((∃ e why, x.before.phase? i = some (.inserting e why) ∧ e.lease = l) ∨
        ∃ e why, x.before.phase? i = some (.closing e why) ∧ (l = e.lease ∨ l ∈ why.waiting)) := by
  obtain ⟨x, hx, i, p, hdropped, hp, hl⟩ := History.mem_lost.mp gone
  have hmove : x.move = .drop i := by
    cases hm : x.move <;> rw [hm] at hdropped <;> cases hdropped
    rfl
  obtain ⟨h₁, h₂, rfl, before, -, -⟩ := run.upTo hx
  refine ⟨x, hx, i, hmove, ?_⟩
  rcases (before.admitted new).charge_cases hp hl with ⟨e, why, rfl, rfl⟩ | ⟨e, why, rfl, owed⟩
  · exact Or.inl ⟨e, why, hp, rfl⟩
  · exact Or.inr ⟨e, why, hp, List.mem_cons.mp owed⟩

theorem Run.append (run : Run c₀ h c) (later : Run c h' d) : Run c₀ (h ++ h') d := by
  induction later with
  | nil =>
    rw [List.append_nil]
    exact run
  | snoc _ move ih =>
    rw [← List.append_assoc]
    exact ih.snoc move

theorem History.abandoned_append (gone : l ∈ h.abandoned) : l ∈ History.abandoned (h ++ h') := by
  rw [abandoned, lost, List.flatMap_append]
  exact List.mem_append_left _ gone

/-- An abandoned handle stays out of every place. -/
theorem Run.not_at_later (new : Cache.ofOptions backend options order = .ok c₀) (run : Run c₀ h c) {e : Entry κ}
    (gone : e.lease ∈ h.abandoned) (later : Run c h' d) (a : Place) : ¬d.At (h ++ h') e a :=
  ((run.append later).ledger new).not_at_of_abandoned (History.abandoned_append gone) a

/-! ### Calls that are given up -/

/-- What becomes of locks, gates and handles if calls are given up. -/
structure Abandonment (h : History κ α) (c : Cache κ α) : Prop where
  /-- Who was given up holds no lock and stands at no gate. -/
  released : ∀ i, c.phase? i = some .dropped →
    c.tasks[i]? = some ⟨.dropped, none⟩ ∧ ∀ f, (f, i) ∉ c.gates
  /-- Nobody waits for it: when no call can go on all calls are over. -/
  unblocked : (∀ m, m.worker?.isSome → c.move m = none) → ∀ i p, c.phase? i = some p → p.isOver = true
  /-- Each dialed handle is at one place, unless a call was given up that had it in hand. -/
  place : ∀ i e, (i, e) ∈ h.dialings → e.lease ∉ h.abandoned → ∃! a, c.At h e a
  /-- Who owes a handle closes it, and needs only the client's answers for it. -/
  owner : ∀ i e, c.At h e (.owed i) →
    ∃ h' d, Run c h' d ∧ (∀ x ∈ h', x.move = .reply i .success) ∧ e.lease ∈ h'.closed
  /-- A handle is abandoned by giving up the call that has dialed it and not put it in yet, or that has removed it
      and not closed it yet. -/
  cause : ∀ l ∈ h.abandoned, ∃ x ∈ h, ∃ i, x.move = .drop i ∧
    ((∃ e why, x.before.phase? i = some (.inserting e why) ∧ e.lease = l) ∨
      ∃ e why, x.before.phase? i = some (.closing e why) ∧ (l = e.lease ∨ l ∈ why.waiting))
  /-- From then on it is in nobody's hand, not in the cache, and never closed. -/
  gone : ∀ e : Entry κ, e.lease ∈ h.abandoned → ∀ h' d, Run c h' d → ∀ a, ¬d.At (h ++ h') e a

/-- In every state that calls can reach, some of which are given up, nobody waits for a call that was given up,
    and each dialed handle is at one place but those that such calls had in hand: they are lost. -/
theorem Run.abandonment (new : Cache.ofOptions backend options order = .ok c₀) (run : Run c₀ h c) :
    Abandonment h c := by
  have k := run.ledger new
  have orderly := run.orderly new
  refine ⟨fun i hp => ?_, run.over_of_stuck new, fun i e hi kept => ?_, fun i e he => ?_,
    fun l gone => run.abandoned_by new gone, fun e gone h' d later => run.not_at_later new gone later⟩
  · obtain ⟨lock, task⟩ := Cache.phase?_eq_some.mp hp
    refine ⟨?_, orderly.not_placed task rfl⟩
    cases lock with
    | none => exact task
    | some l => cases orderly.locks i _ l task
  · obtain ⟨a, ha⟩ := ((run.origins new).at_or_abandoned k hi).resolve_right kept
    refine ⟨a, ha, fun b hb => Cache.At.unique ?_ hb ha⟩
    exact Nat.le_trans (Nat.le_add_right _ _) (k.booked_once e.lease)
  · obtain ⟨p, hp, hl⟩ := he
    obtain ⟨e', why, rfl⟩ := (run.admitted new).closing_of_owed hp hl
    obtain ⟨h', d, closing, replies, hclosed⟩ := Cache.closes_owed hp
    exact ⟨h', d, closing, replies, by rw [hclosed]; exact hl⟩

/-- An operation invalidates the site it runs on and is given up, with what it waits for, while the handle is
    being closed; its caller then runs it again, on a new handle. -/
def Site.interrupted : List (Move Site Nat) :=
  [.start (.withConnection ⟨7, .default⟩), .step 0, .step 0, .step 0, .step 0, .step 0, .step 0, .reply 0 .success,
   .step 0, .step 0, .start (.invalidate ⟨[7]⟩), .step 1, .step 1, .drop 1, .reply 0 .overdue, .step 0, .step 0,
   .step 0, .step 0, .step 0, .step 0, .step 0, .step 0, .reply 0 .success, .step 0, .step 0, .reply 0 (.value 5)]

theorem Site.interrupted_abandonment :
    Cache.ofOptions .keyValue .default .ofInsertion = .ok Site.cache ∧
      Run Site.cache (Site.replay Site.interrupted).1 (Site.replay Site.interrupted).2 ∧
      Abandonment (Site.replay Site.interrupted).1 (Site.replay Site.interrupted).2 := by
  have run := Site.run Site.interrupted rfl
  exact ⟨Site.new, run, Run.abandonment Site.new run⟩

/-- All calls are over, the first handle was dialed, and it is neither in the cache nor closed, now or later. -/
theorem Site.interrupted_handle_lost :
    let h := (Site.replay Site.interrupted).1
    let c := (Site.replay Site.interrupted).2
    let e : Entry Site := ⟨.ofConfig ⟨7, .default⟩, 1, 1⟩
    Run Site.cache h c ∧ (0, e) ∈ h.dialings ∧ (∀ t ∈ c.tasks, t.phase.isOver = true) ∧
      ∀ h' d, Run c h' d → e ∉ d.entries ∧ e.lease ∉ History.closed (h ++ h') ∧ e.lease ∉ d.owed := by
  intro h c e
  have run : Run Site.cache h c := Site.run Site.interrupted rfl
  have gone : e.lease ∈ h.abandoned := by decide
  refine ⟨run, List.mem_of_mem_head? rfl, by decide, fun h' d later => ⟨fun he => ?_, fun closed => ?_, fun owed => ?_⟩⟩
  · have k := (run.append later).ledger Site.new
    exact run.not_at_later Site.new gone later .cached (Cache.entry?_of_mem k.gated he)
  · exact run.not_at_later Site.new gone later .closed closed
  · obtain ⟨j, p, hp, hl⟩ := Cache.mem_inHand.mp owed
    exact run.not_at_later Site.new gone later (.owed j) ⟨p, hp, hl⟩

end StoreAccess
