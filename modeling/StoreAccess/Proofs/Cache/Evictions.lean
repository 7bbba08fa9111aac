import StoreAccess.Proofs.Cache.Grounds

/-! Who evicts what. In the course of another call a task removes the entry of a lease only right after the
    client has failed it on this very lease: the operation for its connection, or the probe. What it finds
    under the fingerprint by then is the entry of the lease or a later one, and it removes only the former;
    in both cases the entry of the lease is gone afterwards. -/

namespace StoreAccess

variable {κ α : Type} [BackendConfig κ] {backend : BackendKind} {options : CacheOptions} {order : EntryOrder}
  {c₀ c d : Cache κ α} {h : History κ α} {i : Nat} {p : Phase κ α} {l : Lease} {x : Transition κ α}

/-! ### Every eviction has its grounds -/

theorem Run.inserted_of_noted (new : Cache.ofOptions backend options order = .ok c₀) (run : Run c₀ h c)
    (noted : h.Noted i l) : ∃ (h₁ : History κ α) (y : Transition κ α) (h₂ : History κ α),
      h = h₁ ++ y :: h₂ ∧ y.move = .step i ∧ y.before.phase? i = some .noting ∧ l ∈ y.before.cached ∧
        l ∈ h₁.inserted := by
  obtain ⟨y, hy, hm, ⟨lock, task⟩, hl⟩ := noted
  obtain ⟨h₁, h₂, hh, before, -⟩ := run.upTo hy
  exact ⟨h₁, y, h₂, hh, hm, Cache.phase?_of_task task, hl, (before.ledger new).inserted_of_cached hl⟩

theorem Run.grounds_of_removed (new : Cache.ofOptions backend options order = .ok c₀) {h₁ h₂ : History κ α}
    (run : Run c₀ (h₁ ++ x :: h₂) c) {call : Call κ} (hcall : (History.calls (h₁ ++ x :: h₂))[i]? = some call)
    (worker : x.move.worker? = some i) {a : Lease} (ha : a ∈ x.removed) :
    (∃ f, call = .invalidate f) ∨ (∃ l, call = .invalidateLease l) ∨ call = .clear ∨
      ∃ why, call.Removes why ∧ Grounds h₁ i a why := by
  obtain ⟨before, move, -⟩ := run.split
  have ledger := before.ledger new
  obtain ⟨j, p, hm, hp, removes⟩ := Transition.removed_cases ledger.gated move ha
  have same : j = i := by
    rw [hm] at worker
    exact Option.some.inj worker
  subst same
  have admits := run.admits_before new (List.mem_append_right _ (List.mem_cons_self ..)) hcall hp
  have inserted := ledger.inserted_of_cached (List.mem_filter.mp ha).1
  cases p with
  | removing => exact Or.inl ⟨_, admits⟩
  | draining => exact Or.inr (Or.inr (Or.inl admits))
  | removingLease l why =>
    have evicts : call.Evicts l why := admits
    have grounds := (before.grounded new j _ hp).grounds l why rfl
    have only : l ∈ h₁.inserted → a = l := fun hl => ledger.eq_of_generation inserted hl removes.2
    cases grounds with
    | caller => exact Or.inr (Or.inl ⟨l, admits⟩)
    | clear => exact False.elim admits
    | operated last breaks hl =>
      rw [only hl]
      exact Or.inr (Or.inr (Or.inr ⟨_, evicts.removes, .operated last breaks hl⟩))
    | probed last failed noted =>
      obtain ⟨g₁, y, g₂, rfl, -, -, -, hl⟩ := before.inserted_of_noted new noted
      rw [only (by rw [History.inserted, List.flatMap_append]; exact List.mem_append_left _ hl)]
      exact Or.inr (Or.inr (Or.inr ⟨_, evicts.removes, .probed last failed noted⟩))
  | _ => exact False.elim removes

theorem Run.removed_of_reply (new : Cache.ofOptions backend options order = .ok c₀) (run : Run c₀ h c) (hx : x ∈ h)
    {r : Reply α} (hm : x.move = .reply i r) : x.removed = [] := by
  obtain ⟨h₁, h₂, rfl, before, move, -⟩ := run.upTo hx
  refine List.eq_nil_iff_forall_not_mem.mpr fun a ha => ?_
  obtain ⟨j, p, hm', -⟩ := Transition.removed_cases (before.ledger new).gated move ha
  rw [hm] at hm'
  cases hm'

theorem Run.removed_of_acquiring (new : Cache.ofOptions backend options order = .ok c₀) (run : Run c₀ h c)
    (hx : x ∈ h) (hp : x.before.phase? i = some p) (acquires : p.acquires?.isSome)
    (worker : x.move.worker? = some i) : x.removed = [] := by
  obtain ⟨h₁, h₂, rfl, before, move, -⟩ := run.upTo hx
  refine List.eq_nil_iff_forall_not_mem.mpr fun a ha => ?_
  obtain ⟨j, q, hm, hq, removes⟩ := Transition.removed_cases (before.ledger new).gated move ha
  rw [hm] at worker
  cases worker
  rw [hp] at hq
  cases hq
  cases p <;> first | exact removes | cases acquires

/-- An operation that does not make its handle unusable ends its call. -/
theorem Cache.answered_of_sound {r : Reply α} (move : c.move (.reply i r) = some d)
    (asked : c.request? i = some (.operate l)) (sound : r.breaks = false) :
    ∃ o, d.answer? i = some (.ran o) := by
  obtain ⟨p, hp, hr⟩ := request?_eq_some.mp asked
  obtain ⟨target, again, rfl⟩ := Phase.operating_of_request? hr
  have at_once : ∀ {q : Phase κ α} {lock : Option Lock}, c.tasks[i]? = some ⟨q, lock⟩ →
      q = .operating target again l := fun task => by
    rw [phase?_of_task task] at hp
    exact Option.some.inj hp
  have does := does_of_move move
  cases does with
  | operated task enters => exact ⟨_, answer?_eq_some.mpr (enters.phase?_eq rfl task)⟩
  | @failed _ target' again' l' _ _ err _ task reply enters =>
    have error : err.isConnection = false := by
      rcases reply with rfl | ⟨rfl, rfl⟩
      · exact err.isConnection_eq.trans sound
      · cases sound
    have there := enters.phase?_eq rfl task
    rw [Phase.afterOperation, if_neg (by rw [error]; simp)] at there
    exact ⟨_, answer?_eq_some.mpr there⟩
  | dialed task | undialed task | pinged task | unpinged task | closed task => cases at_once task

section
variable {h₁ h₂ : History κ α}

theorem Run.operated_of_removed (new : Cache.ofOptions backend options order = .ok c₀)
    (run : Run c₀ (h₁ ++ x :: h₂) c) {config : κ}
    (hcall : (History.calls (h₁ ++ x :: h₂))[i]? = some (.withConnection config))
    (worker : x.move.worker? = some i) {a : Lease} (ha : a ∈ x.removed) :
    ∃ r, (h₁.exchanges i).getLast? = some (.operate a, r) ∧ r.breaks = true := by
  rcases run.grounds_of_removed new hcall worker ha with ⟨_, same⟩ | ⟨_, same⟩ | same | ⟨why, removes, grounds⟩
  · cases same
  · cases same
  · cases same
  · cases grounds with
    | caller => rcases removes with ⟨_, same⟩ | ⟨_, same⟩ <;> cases same
    | operated last breaks _ => exact ⟨_, last, breaks⟩
    | clear | probed => cases removes

theorem Run.probed_of_removed (new : Cache.ofOptions backend options order = .ok c₀)
    (run : Run c₀ (h₁ ++ x :: h₂) c) (hcall : (History.calls (h₁ ++ x :: h₂))[i]? = some .probeOnce)
    (worker : x.move.worker? = some i) {a : Lease} (ha : a ∈ x.removed) :
    (∃ r, (h₁.exchanges i).getLast? = some (.ping a, r) ∧ r.isFailure = true) ∧ h₁.Noted i a := by
  rcases run.grounds_of_removed new hcall worker ha with ⟨_, same⟩ | ⟨_, same⟩ | same | ⟨why, removes, grounds⟩
  · cases same
  · cases same
  · cases same
  · cases grounds with
    | caller => rcases removes with ⟨_, same⟩ | ⟨_, same⟩ <;> cases same
    | operated =>
      obtain ⟨_, same, -⟩ := removes
      cases same
    | clear => cases removes
    | probed last failed noted => exact ⟨⟨_, last, failed⟩, noted⟩

end

theorem Run.gone_of_broke (new : Cache.ofOptions backend options order = .ok c₀) (run : Run c₀ h c)
    {a : CallAnswer α} (answer : c.answer? i = some a) (broke : h.Broke i l) {e : Entry κ} (he : e ∈ c.entries) :
    e.generation ≠ l.generation := by
  intro same
  have ledger := run.ledger new
  have cached : e.lease ∈ c.cached := List.mem_map_of_mem he
  have removed := (run.grounded new i _ (Cache.answer?_eq_some.mp answer)).removed_of_broke rfl rfl broke
  have only := ledger.eq_of_generation (ledger.inserted_of_cached cached) (ledger.removed_subset removed) same
  rw [← only] at removed
  exact List.count_eq_zero.mp (ledger.removed_of_cached cached) removed

/-- What is removed in the course of calls that are not about removals. -/
structure Justified (h : History κ α) (c : Cache κ α) : Prop where
  /-- Who runs operations removes at most the entry of the lease on which its last request, an operation,
      has just failed, and failed as the connection does. -/
  operated : ∀ (h₁ : History κ α) x h₂, h = h₁ ++ x :: h₂ → ∀ i config,
    h.calls[i]? = some (.withConnection config) → x.move.worker? = some i → ∀ a ∈ x.removed,
      ∃ r, (h₁.exchanges i).getLast? = some (.operate a, r) ∧ r.breaks = true
  /-- Who probes the handles removes at most the entry of the lease on which its last request, a ping, has
      just failed; the entry was there when it took note of all, and was not put in since. -/
  probed : ∀ (h₁ : History κ α) x h₂, h = h₁ ++ x :: h₂ → ∀ i, h.calls[i]? = some .probeOnce →
    x.move.worker? = some i → ∀ a ∈ x.removed,
      (∃ r, (h₁.exchanges i).getLast? = some (.ping a, r) ∧ r.isFailure = true) ∧
        ∃ g₁ y g₂, h₁ = g₁ ++ y :: g₂ ∧ y.move = .step i ∧ y.before.phase? i = some .noting ∧
          a ∈ y.before.cached ∧ a ∉ History.inserted (y :: (g₂ ++ x :: h₂))
  /-- An operation that ends otherwise ends its call, with nothing removed. -/
  sound : ∀ x ∈ h, ∀ i l r, x.exchange? i = some (.operate l, r) → r.breaks = false →
    x.removed = [] ∧ ∃ o, x.after.answer? i = some (.ran o)
  /-- While it acquires a lease, whatever comes of it, no task removes anything. -/
  acquiring : ∀ x ∈ h, ∀ i p, x.before.phase? i = some p → p.acquires?.isSome →
    x.move.worker? = some i → x.removed = []
  /-- Once a call is over, no generation is there that an operation of this call made unusable. -/
  gone : ∀ i a, c.answer? i = some a → ∀ l, h.Broke i l → ∀ e ∈ c.entries, e.generation ≠ l.generation

/-- In every run, entries go only when they are to go: at the request of a caller, or because the client has
    just failed a task on this very generation. -/
theorem Run.evictions_justified (new : Cache.ofOptions backend options order = .ok c₀) (run : Run c₀ h c) :
    Justified h c := by
  refine ⟨fun h₁ x h₂ hh i config hcall worker a ha => ?_, fun h₁ x h₂ hh i hcall worker a ha => ?_,
    fun x hx i l r asked sound => ?_, fun x hx i p hp acquires worker => ?_, fun i a answer l broke e he => ?_⟩
  · subst hh
    exact run.operated_of_removed new hcall worker ha
  · subst hh
    obtain ⟨failed, noted⟩ := run.probed_of_removed new hcall worker ha
    obtain ⟨before, -⟩ := run.split
    obtain ⟨g₁, y, g₂, rfl, hm, hp, hl, inserted⟩ := before.inserted_of_noted new noted
    refine ⟨failed, g₁, y, g₂, rfl, hm, hp, hl, fun again => ?_⟩
    -- What was put in before it was noted is not put in once more.
    have once := (run.ledger new).inserted_nodup
    rw [List.append_assoc, List.cons_append, History.inserted, List.flatMap_append] at once
    exact List.disjoint_of_nodup_append once inserted again
  · obtain ⟨hm, request⟩ := Transition.exchange?_eq_some asked
    obtain ⟨-, -, -, -, move, -⟩ := run.upTo hx
    rw [hm] at move
    exact ⟨run.removed_of_reply new hx hm, Cache.answered_of_sound move request sound⟩
  · exact run.removed_of_acquiring new hx hp acquires worker
  · exact run.gone_of_broke new answer broke he

/-- The connection breaks under an operation; its handle is closed, and the operation succeeds on the next
    one. -/
def Site.broken : List (Move Site Nat) :=
  [.start (.withConnection ⟨7, .default⟩), .step 0, .step 0, .step 0, .step 0, .step 0, .step 0,
   .reply 0 .success, .step 0, .step 0, .reply 0 (.failure (.operation "broken pipe" none)), .step 0, .step 0,
   .reply 0 .success, .step 0, .step 0, .step 0, .step 0, .step 0, .step 0, .reply 0 .success, .step 0, .step 0,
   .reply 0 (.value 5)]

theorem Site.broken_eviction_justified :
    Cache.ofOptions .keyValue .default .ofInsertion = .ok Site.cache ∧
    Run Site.cache (Site.replay Site.broken).1 (Site.replay Site.broken).2 ∧
    Justified (Site.replay Site.broken).1 (Site.replay Site.broken).2 ∧
    (Site.replay Site.broken).1.removed = [⟨1, ⟨[7]⟩, 1⟩] ∧
    (∃ r, (History.exchanges 0 ((Site.replay Site.broken).1.take 12)).getLast? =
      some (.operate ⟨1, ⟨[7]⟩, 1⟩, r) ∧ r.breaks = true) ∧
    (Site.replay Site.broken).2.answer? 0 = some (.ran (.ok 5)) ∧
    ∀ e ∈ (Site.replay Site.broken).2.entries, e.generation ≠ 1 := by
  have run := Site.run Site.broken rfl
  have justified := Run.evictions_justified Site.new run
  have eviction : (Site.replay Site.broken).1 = (Site.replay Site.broken).1.take 12 ++
      (Site.replay Site.broken).1.get ⟨12, by decide +kernel⟩ :: (Site.replay Site.broken).1.drop 13 := by
    rw [List.get_eq_getElem, ← List.drop_eq_getElem_cons, List.take_append_drop]
  have failed := justified.operated _ _ _ eviction 0 ⟨7, .default⟩ rfl rfl ⟨1, ⟨[7]⟩, 1⟩ (by decide +kernel)
  have broke : History.Broke (Site.replay Site.broken).1 0 ⟨1, ⟨[7]⟩, 1⟩ :=
    ⟨.failure (.operation "broken pipe" none), List.mem_of_getElem? (i := 1) rfl, rfl⟩
  exact ⟨Site.new, run, justified, rfl, failed, rfl, justified.gone 0 _ rfl ⟨1, ⟨[7]⟩, 1⟩ broke⟩

end StoreAccess
