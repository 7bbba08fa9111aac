import StoreAccess.Proofs.Cache.Calls
import StoreAccess.Proofs.Cache.Ledger

/-! Where the handles of a cache come from. Each was dialed by a task that had asked the client for a
    target which had passed its checks, and is kept with that target. Whoever obtains a lease, by a hit,
    from another task or by its own dial, obtains it from the entry of its own fingerprint. -/

namespace StoreAccess

variable {κ α : Type} [BackendConfig κ]

namespace Transition

/-- The client made the handle of `e`: task `i` had told it to dial the target of `e`, which had passed its
    checks. -/
structure Makes (x : Transition κ α) (i : Nat) (e : Entry κ) : Prop where
  asked : (i, .dial e.target.config (BackendConfig.pool e.target.config)) ∈ x.before.requests
  waits : x.before.request? i = some (.dial e.target.config (BackendConfig.pool e.target.config))
  reply : x.move = .reply i .success
  made : x.dialing? = some (i, e)
  config : BackendConfig.check e.target.config = .ok ()
  pool : (BackendConfig.pool e.target.config).check = .ok ()

/-- The entry that a lent lease comes from. -/
theorem entry_of_lent? {x : Transition κ α} {l : Lease} (h : x.lent? = some l) :
    ∃ e : Entry κ, e.lease = l ∧
      (e ∈ x.before.entries ∨ ∃ i why, x.before.phase? i = some (.inserting e why)) := by
  obtain ⟨c, m, d⟩ := x
  cases m with
  | start | reply | drop => cases h
  | step i =>
    simp only [lent?, Cache.lends?] at h
    split at h
    · obtain ⟨e, he, rfl⟩ := Option.map_eq_some_iff.mp h
      exact ⟨e, rfl, Or.inl (Cache.entry?_eq_some he).1⟩
    · obtain ⟨e, he, rfl⟩ := Option.map_eq_some_iff.mp h
      exact ⟨e, rfl, Or.inl (Cache.entry?_eq_some he).1⟩
    · rename_i e why _ ht
      cases h
      exact ⟨e, rfl, Or.inr ⟨i, why, Cache.phase?_of_task ht⟩⟩
    · cases h

end Transition

theorem Target.check_eq_ok {target : Target κ} (h : target.check = .ok ()) :
    BackendConfig.check target.config = .ok () ∧ (BackendConfig.pool target.config).check = .ok () := by
  simp only [Target.check, bind, Except.bind] at h
  split at h
  · cases h
  · exact ⟨by assumption, h⟩

namespace History

theorem dialings_snoc (h : History κ α) (x : Transition κ α) :
    dialings (h ++ [x]) = dialings h ++ x.dialing?.toList := by
  cases hx : x.dialing? <;> simp [dialings, hx]

theorem mem_dialings {h : History κ α} {y : Nat × Entry κ} : y ∈ h.dialings ↔ ∃ x ∈ h, x.dialing? = some y :=
  List.mem_filterMap

theorem dialed_eq (h : History κ α) : h.dialed = h.dialings.map fun y => y.2.lease := by
  induction h with
  | nil => rfl
  | cons x h ih =>
    have hcons : dialed (x :: h) = x.dialed ++ dialed h := rfl
    rw [hcons, ih]
    cases hx : x.dialing? <;> simp [dialings, Transition.dialed, hx]

end History

/-! ### The invariant -/

/-- What the task dials was checked and asked for, and what it holds it has dialed. -/
structure Sound (h : History κ α) (c : Cache κ α) (i : Nat) (p : Phase κ α) : Prop where
  checked : ∀ (target : Target κ) (why : Purpose κ), p = .dialing target why → target.check = .ok ()
  asked : ∀ r, p.request? = some r → (i, r) ∈ c.requests
  held : ∀ (e : Entry κ) (why : Purpose κ), p = .inserting e why → (i, e) ∈ h.dialings

/-- Every handle that is held or cached was dialed, and what was dialed had been asked for and checked. -/
structure Origins (h : History κ α) (c : Cache κ α) : Prop where
  tasks : ∀ i p, c.phase? i = some p → Sound h c i p
  makes : ∀ x ∈ h, ∀ i e, x.dialing? = some (i, e) → x.Makes i e
  cached : ∀ e ∈ c.entries, ∃ i, (i, e) ∈ h.dialings

namespace Origins

variable {h : History κ α} {c c' d : Cache κ α} {m : Move κ α} {i : Nat}

/-- A successful dial is of the target that was asked for. -/
theorem makes_of_move (k : Origins h c) (move : c.move m = some d) {e : Entry κ}
    (hx : (Transition.mk c m d).dialing? = some (i, e)) : (Transition.mk c m d).Makes i e := by
  rcases Transition.dialed_cases move with ⟨hnil, -⟩ | ⟨j, target, why, hphase, hdialing, -⟩
  · simp [Transition.dialed, hx] at hnil
  · have hmove : m = .reply j .success := by
      cases m with
      | start | step | drop => cases hdialing
      | reply j' r =>
        cases r with
        | value | failure | overdue => cases hdialing
        | success =>
          simp only [Transition.dialing?] at hdialing
          split at hdialing <;> cases hdialing
          rfl
    rw [hx] at hdialing
    cases hdialing
    obtain ⟨checked, asked, -⟩ := k.tasks i _ hphase
    obtain ⟨hconfig, hpool⟩ := Target.check_eq_ok (checked target why rfl)
    refine ⟨asked _ rfl, ?_, hmove, hx, hconfig, hpool⟩
    simp only [Cache.request?, hphase]
    rfl

/-- A move keeps the invariant if the phases it brings about are sound and the entries it puts in were
    dialed. -/
theorem grow (k : Origins h c) (move : c.move m = some d) (hrequests : ∀ y ∈ c.requests, y ∈ d.requests)
    (htasks : ∀ j p, d.phase? j = some p → c.phase? j = some p ∨ Sound (h ++ [⟨c, m, d⟩]) d j p)
    (hcached : ∀ e ∈ d.entries, e ∈ c.entries ∨ ∃ j, (j, e) ∈ h.dialings) :
    Origins (h ++ [⟨c, m, d⟩]) d := by
  have grown : ∀ y ∈ h.dialings, y ∈ History.dialings (h ++ [⟨c, m, d⟩]) := fun y hy => by
    rw [History.dialings_snoc]
    exact List.mem_append_left _ hy
  refine ⟨fun j p hp => ?_, fun x hx j e hj => ?_, fun e he => ?_⟩
  · rcases htasks j p hp with hp | sound
    · obtain ⟨checked, asked, held⟩ := k.tasks j p hp
      exact ⟨checked, fun r hr => hrequests _ (asked r hr), fun e why he => grown _ (held e why he)⟩
    · exact sound
  · rcases List.mem_append.mp hx with hx | hx
    · exact k.makes x hx j e hj
    · cases List.mem_singleton.mp hx
      exact k.makes_of_move move hj
  · rcases hcached e he with he | ⟨j, hj⟩
    · obtain ⟨j, hj⟩ := k.cached e he
      exact ⟨j, grown _ hj⟩
    · exact ⟨j, grown _ hj⟩

/-- A task enters a phase in which it puts nothing in. -/
theorem enter (k : Origins h c) (move : c.move m = some d) {q : Phase κ α} (enters : c'.Enters i q d)
    (htasks : c'.tasks = c.tasks) (hevents : c'.events = c.events)
    (hchecked : ∀ target why, q = .dialing target why → target.check = .ok ())
    (hheld : ∀ e why, q = .inserting e why → (i, e) ∈ History.dialings (h ++ [⟨c, m, d⟩]))
    (hcached : ∀ e ∈ c'.entries, e ∈ c.entries ∨ ∃ j, (j, e) ∈ h.dialings) :
    Origins (h ++ [⟨c, m, d⟩]) d := by
  have hrequests : d.requests = c.requests ++ (q.request?.map (i, ·)).toList := by
    rw [enters.requests, Cache.requests, hevents, Cache.requests]
  refine k.grow move (fun y hy => ?_) (fun j p hp => ?_) fun e he => hcached e (enters.entries ▸ he)
  · rw [hrequests]
    exact List.mem_append_left _ hy
  · rcases enters.phase_cases htasks hp with ⟨rfl, rfl⟩ | ⟨-, hp⟩
    · refine Or.inr ⟨hchecked, fun r hr => ?_, hheld⟩
      rw [hrequests]
      exact List.mem_append_right _ (by simp [hr])
    · exact Or.inl hp

theorem snoc (k : Origins h c) (move : c.move m = some d) : Origins (h ++ [⟨c, m, d⟩]) d := by
  have nothing : ∀ {q : Phase κ α}, q.fills? = none → (∀ target why, q ≠ .dialing target why) ∧
      ∀ e why, q ≠ .inserting e why := fun hq => by
    constructor <;> rintro _ _ rfl <;> cases hq
  -- A task that goes on without a dial keeps the invariant, whatever entries it takes out.
  have pass : ∀ {c' : Cache κ α} {i : Nat} {q : Phase κ α}, c'.Enters i q d → c'.tasks = c.tasks →
      c'.events = c.events → q.fills? = none → (∀ e ∈ c'.entries, e ∈ c.entries) →
      Origins (h ++ [⟨c, m, d⟩]) d := fun enters ht he hq hsub =>
    k.enter move enters ht he (fun target why hp => absurd hp ((nothing hq).1 target why))
      (fun e why hp => absurd hp ((nothing hq).2 e why)) fun e he => Or.inl (hsub e he)
  have effect := Cache.effect_of_move move
  cases effect with
  | @start call =>
    refine k.grow move (fun _ hy => hy) (fun j p hp => ?_) fun e he => Or.inl he
    rcases Cache.start_phase_cases hp with hp | ⟨-, rfl⟩
    · exact Or.inl hp
    · refine Or.inr ⟨fun target why hp => ?_, fun r hr => ?_, fun e why hp => ?_⟩ <;> cases call
      all_goals first | cases hp | cases hr
  | lock task _ =>
    exact k.grow move (fun _ hy => hy) (fun j p hp => Or.inl (Cache.lock_phase? task ▸ hp)) fun e he => Or.inl he
  | pass _ _ enters _ _ there => exact pass enters rfl rfl there.fills fun _ he => he
  | queue _ enters => exact pass enters rfl rfl rfl fun _ he => he
  | dial _ _ check enters =>
    refine k.enter move enters rfl rfl (fun target why hp => ?_) (fun e why hp => ?_) fun e he => Or.inl he
    · cases hp
      exact check
    · cases hp
  | @dialed i target why l _ task enters =>
    refine k.enter move enters rfl rfl (fun target why hp => ?_) (fun e why hp => ?_) fun e he => Or.inl he
    · cases hp
    · cases hp
      rw [History.dialings_snoc]
      apply List.mem_append_right
      simp [Transition.dialing?, Cache.phase?_of_task task, enters.phase?_eq (c := c) rfl task]
  | leave _ _ enters _ _ there => exact pass enters rfl rfl there.fills fun _ he => he
  | @insert i e why l _ _ task there enters =>
    refine k.enter move enters rfl rfl (fun target why hp => absurd hp ((nothing there.fills).1 target why))
      (fun e why hp => absurd hp ((nothing there.fills).2 e why)) fun e' he' => ?_
    rcases Cache.mem_put.mp he' with ⟨he', -⟩ | rfl
    · exact Or.inl he'
    · exact Or.inr ⟨i, (k.tasks i _ (Cache.phase?_of_task task)).held e' why rfl⟩
  | remove _ _ _ _ enters => exact pass enters rfl rfl rfl fun _ he => (Cache.mem_erase.mp he).1
  | drain _ _ enters => exact pass enters rfl rfl (Phase.owes_toClose _).fills fun _ he => by cases he
  | closed _ enters => exact pass enters rfl rfl (Phase.owes_afterRemoval _ _).fills fun _ he => he
  | drop _ enters => exact pass enters rfl rfl rfl fun _ he => he

end Origins

theorem Run.origins {backend : BackendKind} {options : CacheOptions} {order : EntryOrder} {c₀ c : Cache κ α}
    {h : History κ α} (new : Cache.ofOptions backend options order = .ok c₀) (run : Run c₀ h c) : Origins h c := by
  induction run with
  | nil =>
    rw [Cache.ofOptions_eq_ok new]
    refine ⟨fun i p hp => ?_, fun x hx => ?_, fun e he => ?_⟩
    · cases hp
    · cases hx
    · cases he
  | snoc _ move ih => exact ih.snoc move

end StoreAccess
