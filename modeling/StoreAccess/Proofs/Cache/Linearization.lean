import StoreAccess.Proofs.Cache.Registry
import StoreAccess.Proofs.Cache.Generations
import StoreAccess.Proofs.Cache.Stalls

/-! Calls that run side by side do what they would do one after the other. Each takes effect in one stroke:
    a removal as the entry is taken out, whenever its handle is closed; an acquisition as it finds an entry,
    puts one in or is refused. In the order of these strokes the calls use the entries as a map. -/

namespace StoreAccess

variable {κ α : Type} [BackendConfig κ] {backend : BackendKind} {options : CacheOptions} {order : EntryOrder}
  {c₀ c c' d : Cache κ α} {h : History κ α} {i j : Nat} {m : Move κ α} {p q : Phase κ α} {l : Lease}
  {x : Transition κ α} {call : Call κ} {a : CallAnswer α}

/-! ### Calls that take effect at once -/

namespace Call

/-- The call uses the map once; others run operations or probe handles in between. -/
def isPlain : Call κ → Bool
  | withConnection _ | probeOnce => false
  | _ => true

theorem Acquires.of_plain {target : Target κ} {why : Purpose κ} (acquires : call.Acquires target why)
    (plain : call.isPlain = true) :
    why = .caller ∧ ∃ config, call = .acquire config ∧ target = .ofConfig config := by
  cases why with
  | caller => exact ⟨rfl, acquires⟩
  | attempt =>
    obtain ⟨_, rfl, -⟩ := acquires
    cases plain
  | replace =>
    rw [show call = .probeOnce from acquires] at plain
    cases plain

theorem Evicts.of_plain {why : Aftermath κ} (evicts : call.Evicts l why) (plain : call.isPlain = true) :
    why = .caller ∧ call = .invalidateLease l := by
  cases why with
  | caller => exact ⟨rfl, evicts⟩
  | attempt =>
    obtain ⟨_, rfl, -⟩ := evicts
    cases plain
  | probe =>
    rw [show call = .probeOnce from evicts] at plain
    cases plain
  | clear => cases evicts

end Call

namespace Phase

/-- The answer of a call that has taken effect, though handles may be left to close. -/
def settled? : Phase κ α → Option (CallAnswer α)
  | finished a => some a
  | closing _ .caller => some (.removed true)
  | closing _ (.clear _) => some .cleared
  | _ => none

theorem settled?_ofCall (call : Call κ) : (ofCall call : Phase κ α).settled? = none := by
  cases call <;> rfl

theorem settled?_toClose (rest : List (Entry κ)) : (toClose rest : Phase κ α).settled? = some .cleared := by
  cases rest <;> rfl

theorem settled?_afterRemoval {why : Aftermath κ} {e : Entry κ} (removes : call.Removes why)
    (plain : call.isPlain = true) :
    (afterRemoval why true : Phase κ α).settled? = (closing e why : Phase κ α).settled? := by
  cases why with
  | caller => rfl
  | attempt =>
    obtain ⟨_, rfl, -⟩ := removes
    cases plain
  | probe =>
    rw [show call = .probeOnce from removes] at plain
    cases plain
  | clear rest => exact settled?_toClose rest

end Phase

/-! ### What a move is to the map -/

namespace Cache

def settled? (c : Cache κ α) (i : Nat) : Option (CallAnswer α) := (c.phase? i).bind Phase.settled?

theorem settled?_of_phase (hp : c.phase? i = some p) : c.settled? i = p.settled? := by
  rw [settled?, hp, Option.bind_some]

theorem settled?_of_answer (answer : c.answer? i = some a) : c.settled? i = some a :=
  settled?_of_phase (answer?_eq_some.mp answer)

theorem kept_of_over (move : c.move m = some d) (hp : c.phase? i = some p) (ended : p.isOver = true) :
    d.phase? i = some p := by
  obtain ⟨lock, task⟩ := phase?_eq_some.mp hp
  have unlocked : p.lock? = none := by cases p <;> first | rfl | cases ended
  refine phase?_of_other move hp (fun worker => ?_) fun dropped => ?_
  · cases m with
    | start | drop => cases worker
    | step =>
      cases worker
      simp [Cache.move, step, task, unlocked] at move
    | reply =>
      cases worker
      cases p with
      | finished | dropped => simp [Cache.move, reply, task] at move
      | _ => cases ended
  · cases m with
    | start | step | reply => cases dropped
    | drop =>
      cases dropped
      simp [Cache.move, hp, ended] at move

theorem settled?_of_start (call : Call κ) : (c.start call).settled? j = c.settled? j := by
  cases hp : c.phase? j with
  | some p =>
    have kept := phase?_of_other (m := .start call) rfl hp (by simp [Move.worker?]) (by simp [Move.dropped?])
    rw [settled?_of_phase hp, settled?_of_phase kept]
  | none =>
    rw [settled?, settled?, hp]
    cases hq : (c.start call).phase? j with
    | none => rfl
    | some q =>
      rcases start_phase_cases hq with old | ⟨-, rfl⟩
      · rw [hp] at old
        cases old
      · exact Phase.settled?_ofCall call

/-- What a move is to the map: nothing, or the stroke of one call. -/
inductive Appears (made : Nat → Lease → Prop) (past : List Lease) (calls : List (Call κ)) (c : Cache κ α)
    (m : Move κ α) (d : Cache κ α) : Prop
  | quiet (shelf : d.shelf = c.shelf) (inserted : (Transition.mk c m d).inserted = [])
      (kept : ∀ j, d.settled? j = c.settled? j ∨ d.phase? j = some .dropped)
  | stroke {i : Nat} {call : Call κ} {a : CallAnswer α} {p : Phase κ α} (known : calls[i]? = some call)
      (before : c.phase? i = some p) (unsettled : p.settled? = none) (alive : p.isDropped = false)
      (after : d.settled? i = some a) (other : ∀ j, j ≠ i → d.phase? j = c.phase? j)
      (performs : Registry.Performs made ⟨c.shelf, past⟩ ⟨i, call, a⟩
        ⟨d.shelf, past ++ (Transition.mk c m d).inserted⟩)

theorem shelf_congr (same : d.entries = c.entries) : d.shelf = c.shelf := by rw [shelf, shelf, same]

theorem cached_congr (same : d.entries = c.entries) : d.cached = c.cached := by rw [cached, cached, same]

theorem Enters.phase?_of_ne (enters : c'.Enters i q d) (same : c'.tasks = c.tasks) (other : j ≠ i) :
    d.phase? j = c.phase? j := by
  simp [phase?, enters.tasks, same, List.getElem?_set_ne (Ne.symm other)]

namespace Appears

variable {made : Nat → Lease → Prop} {past : List Lease} {calls : List (Call κ)} {lock : Option Lock}

theorem quiet_of_enters (enters : c'.Enters i q d) (tasks : c'.tasks = c.tasks) (entries : c'.entries = c.entries)
    (task : c.tasks[i]? = some ⟨p, lock⟩) (same : q.settled? = p.settled?) :
    c.Appears made past calls m d := by
  have unchanged : d.entries = c.entries := enters.entries.trans entries
  refine .quiet (shelf_congr unchanged) (Transition.inserted_of_eq (cached_congr unchanged)) fun j => Or.inl ?_
  by_cases hij : j = i
  · rw [hij, settled?_of_phase (enters.phase?_eq tasks task), same, settled?_of_phase (phase?_of_task task)]
  · rw [settled?, enters.phase?_of_ne tasks hij, settled?]

theorem stroke_of_enters (enters : c'.Enters i q d) (tasks : c'.tasks = c.tasks)
    (task : c.tasks[i]? = some ⟨p, lock⟩) (known : calls[i]? = some call) (unsettled : p.settled? = none)
    (alive : p.isDropped = false) (settled : q.settled? = some a) {map : Finmap fun _ : Fingerprint => Nat × Nat}
    {inserted : List Lease} (shelf : d.shelf = map) (added : (Transition.mk c m d).inserted = inserted)
    (performs : Registry.Performs made ⟨c.shelf, past⟩ ⟨i, call, a⟩ ⟨map, past ++ inserted⟩) :
    c.Appears made past calls m d := by
  have after : d.settled? i = some a := by rw [settled?_of_phase (enters.phase?_eq tasks task), settled]
  refine .stroke known (phase?_of_task task) unsettled alive after
    (fun j other => enters.phase?_of_ne tasks other) ?_
  rw [shelf, added]
  exact performs

theorem removal_of_enters (enters : c'.Enters i q d) (tasks : c'.tasks = c.tasks)
    (task : c.tasks[i]? = some ⟨p, lock⟩) (known : calls[i]? = some call) (unsettled : p.settled? = none)
    (alive : p.isDropped = false) (settled : q.settled? = some a) {map : Finmap fun _ : Fingerprint => Nat × Nat}
    (shelf : d.shelf = map) (fewer : ∀ l ∈ d.cached, l ∈ c.cached)
    (performs : Registry.Performs made ⟨c.shelf, past⟩ ⟨i, call, a⟩ ⟨map, past⟩) :
    c.Appears made past calls m d := by
  refine stroke_of_enters enters tasks task known unsettled alive settled shelf
    (Transition.inserted_of_subset fewer) ?_
  rwa [List.append_nil]

theorem read_of_enters (enters : c'.Enters i q d) (tasks : c'.tasks = c.tasks) (entries : c'.entries = c.entries)
    (task : c.tasks[i]? = some ⟨p, lock⟩) (known : calls[i]? = some call) (unsettled : p.settled? = none)
    (alive : p.isDropped = false) (settled : q.settled? = some a)
    (performs : Registry.Performs made ⟨c.shelf, past⟩ ⟨i, call, a⟩ ⟨c.shelf, past⟩) :
    c.Appears made past calls m d := by
  have unchanged : d.entries = c.entries := enters.entries.trans entries
  exact removal_of_enters enters tasks task known unsettled alive settled (shelf_congr unchanged)
    (fun l hl => cached_congr unchanged ▸ hl) performs

/-- A call that is given up leaves the map as it is. -/
theorem quiet_of_drop (enters : c'.Enters i .dropped d) (tasks : c'.tasks = c.tasks)
    (entries : c'.entries = c.entries) (task : c.tasks[i]? = some ⟨p, lock⟩) : c.Appears made past calls m d := by
  have unchanged : d.entries = c.entries := enters.entries.trans entries
  refine .quiet (shelf_congr unchanged) (Transition.inserted_of_eq (cached_congr unchanged)) fun j => ?_
  by_cases hij : j = i
  · subst hij
    exact Or.inr (enters.phase?_eq tasks task)
  · left
    rw [settled?, enters.phase?_of_ne tasks hij, settled?]

end Appears

end Cache

/-- The client has dialed the handle of the lease for this task. -/
def History.MadeFor (h : History κ α) (i : Nat) (l : Lease) : Prop :=
  ∃ e : Entry κ, (i, e) ∈ h.dialings ∧ e.lease = l

theorem Ledger.fresh_of_held (k : Ledger h c) (hl : l ∈ c.held) {a : Lease} (ha : a ∈ h.inserted) :
    a.handle ≠ l.handle := fun same => by
  rw [← List.count_pos_iff] at hl
  have dialed := k.dialed l
  have once := k.count_dialed_le l
  have made : l ∈ h.dialed := List.count_pos_iff.mp (by omega)
  have only : a = l := List.inj_on_of_nodup_map k.handles_nodup (k.inserted_subset ha) made same
  rw [only, ← List.count_pos_iff] at ha
  omega

theorem Cache.Enters.cached_of_erase {f : Fingerprint} (enters : (c.erase f).Enters i q d) :
    ∀ l ∈ d.cached, l ∈ c.cached := fun l hl => by
  rw [enters.cached_eq, Transition.cached_erase] at hl
  exact (List.mem_filter.mp hl).1

section
variable {target : Target κ} {why : Purpose κ} {lock : Option Lock}
  (new : Cache.ofOptions backend options order = .ok c₀) (run : Run c₀ h c)
  (plain : ∀ call ∈ h.calls, call.isPlain = true)
include new run plain

/-- A task is of a call that uses the map once. -/
theorem Run.plain_of_task (task : c.tasks[i]? = some ⟨p, lock⟩) :
    ∃ call, h.calls[i]? = some call ∧ call.Admits p ∧ call.isPlain = true := by
  obtain ⟨call, hcall, admits⟩ := (run.admitted new).call_of_task task
  exact ⟨call, hcall, admits, plain call (List.mem_of_getElem? hcall)⟩

/-- An acquisition that finds an entry takes effect as it finds it. -/
theorem Run.appears_of_found {e : Entry κ} (task : c.tasks[i]? = some ⟨p, lock⟩)
    (admits : ∀ call : Call κ, call.Admits p → call.Acquires target why) (unsettled : p.settled? = none)
    (alive : p.isDropped = false) (entry : c.entry? target.fingerprint = some e)
    (enters : c'.Enters i (.afterLease target why e.lease) d) (tasks : c'.tasks = c.tasks)
    (entries : c'.entries = c.entries) : c.Appears h.MadeFor h.inserted h.calls m d := by
  obtain ⟨call, hcall, acquires, single⟩ := run.plain_of_task new plain task
  obtain ⟨rfl, config, rfl, rfl⟩ := Call.Acquires.of_plain (admits call acquires) single
  exact .read_of_enters enters tasks entries task hcall unsettled alive rfl
    (.present (Cache.entry?_eq_some entry).2 (Cache.lookup_shelf_of_entry entry))

/-- One that is refused takes effect then, and finds its key absent. -/
theorem Run.appears_of_refused {err : Error} (task : c.tasks[i]? = some ⟨p, lock⟩)
    (admits : ∀ call : Call κ, call.Admits p → call.Acquires target why) (unsettled : p.settled? = none)
    (alive : p.isDropped = false) (absent : c.entry? target.fingerprint = none)
    (enters : c'.Enters i (.afterRefusal target why err) d) (tasks : c'.tasks = c.tasks)
    (entries : c'.entries = c.entries) : c.Appears h.MadeFor h.inserted h.calls m d := by
  obtain ⟨call, hcall, acquires, single⟩ := run.plain_of_task new plain task
  obtain ⟨rfl, config, rfl, rfl⟩ := Call.Acquires.of_plain (admits call acquires) single
  exact .read_of_enters enters tasks entries task hcall unsettled alive rfl
    (.fails (Cache.lookup_shelf_of_absent absent))

/-- One that has dialed its target takes effect as it puts the entry in. -/
theorem Run.appears_of_insert {e : Entry κ} (task : c.tasks[i]? = some ⟨.inserting e why, lock⟩)
    (enters : ((c.put e).leave i).Enters i (.afterLease e.target why e.lease) d) :
    c.Appears h.MadeFor h.inserted h.calls (.step i) d := by
  have ledger := run.ledger new
  obtain ⟨call, hcall, acquires, single⟩ := run.plain_of_task new plain task
  obtain ⟨rfl, config, rfl, own⟩ := Call.Acquires.of_plain acquires single
  have absent := ledger.gated.absent i _ _ task rfl
  have held : e.lease ∈ c.held := Cache.mem_inHand.mpr ⟨i, _, Cache.phase?_of_task task, List.mem_singleton_self _⟩
  have fresh : e.lease ∉ c.cached := fun there => by
    obtain ⟨e', he', same⟩ := List.mem_map.mp there
    exact absent e' he' (congrArg Lease.fingerprint same)
  have added := Transition.inserted_of_append (m := .step i)
    (enters.cached_eq.trans (Transition.cached_put absent)) fresh
  have shelf : d.shelf = c.shelf.insert e.target.fingerprint (e.generation, e.handle) :=
    (Cache.shelf_congr enters.entries).trans (Cache.shelf_put c e)
  have dialed := ((run.origins new).tasks i _ (Cache.phase?_of_task task)).held e .caller rfl
  refine .stroke_of_enters enters rfl task hcall rfl rfl rfl shelf added (.adds ?_ ?_ ⟨e, dialed, rfl⟩ ?_ ?_)
  · rw [Entry.lease_fingerprint, own]
    rfl
  · exact Cache.lookup_shelf_of_absent (Cache.entry?_eq_none.mpr absent)
  · exact fun a ha => ledger.fresh_of_held held ha
  · exact fun a ha same => (run.ordered new).held _ held a ha same

theorem Run.appears (move : c.move m = some d) : c.Appears h.MadeFor h.inserted h.calls m d := by
  have gated := (run.ledger new).gated
  have does := Cache.does_of_move move
  cases does with
  | @start call =>
    exact .quiet rfl (Transition.inserted_of_eq rfl) fun j => Or.inl (Cache.settled?_of_start call)
  | lock task =>
    refine .quiet rfl (Transition.inserted_of_eq rfl) fun j => Or.inl ?_
    rw [Cache.settled?, Cache.lock_phase? task, Cache.settled?]
  | miss task _ enters | dial task _ _ enters => exact .quiet_of_enters enters rfl rfl task rfl
  | queue task enters | dialed task enters => exact .quiet_of_enters enters rfl rfl task rfl
  | closed task _ enters =>
    -- The call took effect when it took the entry out.
    obtain ⟨call, hcall, removes, single⟩ := run.plain_of_task new plain task
    exact .quiet_of_enters enters rfl rfl task (Phase.settled?_afterRemoval removes single)
  | drop task _ enters => exact .quiet_of_drop enters rfl rfl task
  | hit task entry enters | share task entry enters =>
    exact run.appears_of_found new plain task (fun _ => id) rfl rfl entry enters rfl rfl
  | reject task entry check enters =>
    exact run.appears_of_refused new plain task (fun _ => id) rfl rfl entry enters rfl rfl
  | undialed task reply enters =>
    -- While a target is dialed nobody else puts it in, so a dial fails where the key is absent.
    exact run.appears_of_refused new plain task (fun _ => id) rfl rfl (gated.entry?_eq_none task rfl) enters rfl rfl
  | insert task enters => exact run.appears_of_insert new plain task enters
  | remove task entry enters =>
    obtain ⟨call, hcall, rfl, -⟩ := run.plain_of_task new plain task
    exact .removal_of_enters enters rfl task hcall rfl rfl rfl
      ((Cache.shelf_congr enters.entries).trans (Cache.shelf_erase c _)) enters.cached_of_erase
      (Cache.performs_invalidate entry)
  | removeNone task entry enters =>
    obtain ⟨call, hcall, rfl, -⟩ := run.plain_of_task new plain task
    exact .read_of_enters enters rfl rfl task hcall rfl rfl rfl (Cache.performs_invalidate_of_absent entry)
  | evict task entry same enters =>
    obtain ⟨call, hcall, evicts, single⟩ := run.plain_of_task new plain task
    obtain ⟨rfl, rfl⟩ := Call.Evicts.of_plain evicts single
    exact .removal_of_enters enters rfl task hcall rfl rfl rfl
      ((Cache.shelf_congr enters.entries).trans (Cache.shelf_erase c _)) enters.cached_of_erase
      (Cache.performs_invalidateLease entry same)
  | evictNone task stale enters =>
    obtain ⟨call, hcall, evicts, single⟩ := run.plain_of_task new plain task
    obtain ⟨rfl, rfl⟩ := Call.Evicts.of_plain evicts single
    exact .read_of_enters enters rfl rfl task hcall rfl rfl rfl (Cache.performs_invalidateLease_of_stale stale)
  | drain task _ enters =>
    obtain ⟨call, hcall, rfl, -⟩ := run.plain_of_task new plain task
    exact .removal_of_enters enters rfl task hcall rfl rfl (Phase.settled?_toClose _)
      (Cache.shelf_congr enters.entries) (fun l hl => by rw [enters.cached_eq] at hl; cases hl) .clear
  | count task enters =>
    obtain ⟨call, hcall, rfl, -⟩ := run.plain_of_task new plain task
    exact .read_of_enters enters rfl rfl task hcall rfl rfl rfl (Cache.performs_length gated)
  | contain task enters =>
    obtain ⟨call, hcall, rfl, -⟩ := run.plain_of_task new plain task
    exact .read_of_enters enters rfl rfl task hcall rfl rfl rfl Cache.performs_contains
  | note task | pinged task | unpinged task =>
    obtain ⟨call, hcall, rfl, single⟩ := run.plain_of_task new plain task
    cases single
  | operated task | failed task =>
    obtain ⟨call, hcall, ⟨⟨_, rfl, -⟩, -⟩, single⟩ := run.plain_of_task new plain task
    cases single

end

/-! ### Time -/

/-- Call `i` was answered before call `j` began. -/
def History.Precedes (h : History κ α) (i j : Nat) : Prop :=
  ∃ (h₁ : History κ α) (x : Transition κ α) (h₂ : History κ α), h = h₁ ++ x :: h₂ ∧
    (∃ a, x.after.answer? i = some a) ∧ (History.calls (h₁ ++ [x])).length ≤ j

theorem History.Precedes.of_snoc (precedes : Precedes (h ++ [x]) i j) (begun : j < h.calls.length) :
    h.Precedes i j := by
  obtain ⟨h₁, y, h₂, hh, answered, later⟩ := precedes
  rcases List.eq_nil_or_concat h₂ with rfl | ⟨h₃, z, rfl⟩
  · obtain ⟨rfl, -⟩ := List.append_inj' hh rfl
    rw [History.calls_append, List.length_append] at later
    omega
  · rw [List.concat_eq_append, ← List.cons_append, ← List.append_assoc] at hh
    obtain ⟨rfl, -⟩ := List.append_inj' hh rfl
    exact ⟨h₁, y, h₃, rfl, answered, later⟩

theorem Run.answer?_kept (run : Run c h d) (answer : c.answer? i = some a) : d.answer? i = some a :=
  run.keeps (fun _ _ _ answer move => Cache.answer?_eq_some.mpr
    (Cache.kept_of_over move (Cache.answer?_eq_some.mp answer) rfl)) answer

theorem Run.answered_of_precedes (run : Run c h d) (precedes : h.Precedes i j) : ∃ a, d.answer? i = some a := by
  obtain ⟨h₁, x, h₂, rfl, ⟨a, answer⟩, -⟩ := precedes
  obtain ⟨-, -, rest⟩ := run.split
  exact ⟨a, rest.answer?_kept answer⟩

/-! ### One after the other -/

/-- The operations `s` are calls of the history, each at most once, and go well one after the other. -/
structure Sequenced (h : History κ α) (c : Cache κ α) (s : List (Operation κ α)) : Prop where
  /-- Each finds in the map what it answers, and all together they leave the entries that are there. -/
  legal : Registry.PerformsAll h.MadeFor .empty s ⟨c.shelf, h.inserted⟩
  calls : ∀ o ∈ s, h.calls[o.task]? = some o.call
  once : (s.map Operation.task).Nodup
  /-- What was answered before another call began comes before it. -/
  ordered : s.Pairwise fun o o' => ¬ h.Precedes o'.task o.task

/-- They are all calls that are over, with their answers, and maybe some that are not. -/
structure Linearization (h : History κ α) (c : Cache κ α) (s : List (Operation κ α)) : Prop
    extends Sequenced h c s where
  complete : ∀ i a, c.answer? i = some a → ∃ o ∈ s, o.task = i ∧ o.answer = a

/-- They are exactly the calls that have taken effect. -/
structure Settled (h : History κ α) (c : Cache κ α) (s : List (Operation κ α)) : Prop
    extends Sequenced h c s where
  settled : ∀ i a, c.settled? i = some a → ∃ o ∈ s, o.task = i ∧ o.answer = a
  taken : ∀ o ∈ s, c.settled? o.task = some o.answer ∨ c.phase? o.task = some .dropped

namespace Settled

variable {s : List (Operation κ α)}

theorem begun (k : Settled h c s) {o : Operation κ α} (ho : o ∈ s) : o.task < h.calls.length :=
  (List.getElem?_eq_some_iff.mp (k.calls o ho)).1

theorem madeFor_snoc (i : Nat) (l : Lease) (made : h.MadeFor i l) : History.MadeFor (h ++ [x]) i l := by
  obtain ⟨e, he, same⟩ := made
  refine ⟨e, ?_, same⟩
  rw [History.dialings_snoc]
  exact List.mem_append_left _ he

theorem calls_snoc (k : Settled h c s) {o : Operation κ α} (ho : o ∈ s) :
    (History.calls (h ++ [x]))[o.task]? = some o.call := by
  rw [History.calls_append, List.getElem?_append_left (k.begun ho)]
  exact k.calls o ho

theorem ordered_snoc (k : Settled h c s) :
    s.Pairwise fun o o' => ¬ History.Precedes (h ++ [x]) o'.task o.task :=
  k.ordered.imp_of_mem fun ho _ apart precedes => apart (precedes.of_snoc (k.begun ho))

theorem quiet (k : Settled h c s) (move : c.move m = some d) (shelf : d.shelf = c.shelf)
    (inserted : (Transition.mk c m d).inserted = [])
    (kept : ∀ j, d.settled? j = c.settled? j ∨ d.phase? j = some .dropped) : Settled (h ++ [⟨c, m, d⟩]) d s where
  legal := by
    rw [shelf, History.inserted_snoc, inserted, List.append_nil]
    exact k.legal.mono madeFor_snoc
  calls _ ho := k.calls_snoc ho
  once := k.once
  ordered := k.ordered_snoc
  settled j a hj := by
    rcases kept j with same | dropped
    · exact k.settled j a (same ▸ hj)
    · rw [Cache.settled?_of_phase dropped] at hj
      cases hj
  taken o ho := by
    rcases kept o.task with same | dropped
    · rcases k.taken o ho with settled | dropped
      · exact Or.inl (same.trans settled)
      · exact Or.inr (Cache.kept_of_over move dropped rfl)
    · exact Or.inr dropped

theorem stroke (k : Settled h c s) (run : Run c₀ h c) (known : h.calls[i]? = some call)
    (before : c.phase? i = some p) (unsettled : p.settled? = none) (alive : p.isDropped = false)
    (after : d.settled? i = some a) (other : ∀ j, j ≠ i → d.phase? j = c.phase? j)
    (performs : Registry.Performs h.MadeFor ⟨c.shelf, h.inserted⟩ ⟨i, call, a⟩
      ⟨d.shelf, h.inserted ++ (Transition.mk c m d).inserted⟩) :
    Settled (h ++ [⟨c, m, d⟩]) d (s ++ [⟨i, call, a⟩]) := by
  have new : ∀ o ∈ s, o.task ≠ i := fun o ho same => by
    rcases k.taken o ho with settled | dropped
    · rw [same, Cache.settled?_of_phase before, unsettled] at settled
      cases settled
    · rw [same, before] at dropped
      cases dropped
      cases alive
  refine ⟨⟨?_, fun o ho => ?_, ?_, ?_⟩, fun j b hj => ?_, fun o ho => ?_⟩
  · rw [History.inserted_snoc]
    exact (k.legal.snoc performs).mono madeFor_snoc
  · rcases List.mem_append.mp ho with ho | ho
    · exact k.calls_snoc ho
    · rw [List.mem_singleton.mp ho, History.calls_append]
      exact List.getElem?_append_left (List.getElem?_eq_some_iff.mp known).1 ▸ known
  · rw [List.map_append, List.nodup_append]
    refine ⟨k.once, by simp, fun t ht u hu same => ?_⟩
    obtain ⟨o, ho, rfl⟩ := List.mem_map.mp ht
    exact new o ho (same.trans (List.mem_singleton.mp hu))
  · refine List.pairwise_append.mpr ⟨k.ordered_snoc, List.pairwise_singleton _ _, fun o ho o' ho' precedes => ?_⟩
    -- The call was not answered before, and all others in the list began before this move.
    rw [List.mem_singleton.mp ho'] at precedes
    obtain ⟨b, answer⟩ := run.answered_of_precedes (precedes.of_snoc (k.begun ho))
    have settled := Cache.settled?_of_answer answer
    rw [Cache.settled?_of_phase before, unsettled] at settled
    cases settled
  · by_cases hij : j = i
    · rw [hij, after] at hj
      cases hj
      exact ⟨_, List.mem_append_right _ (List.mem_singleton_self _), hij.symm, rfl⟩
    · rw [Cache.settled?, other j hij] at hj
      obtain ⟨o, ho, rest⟩ := k.settled j b hj
      exact ⟨o, List.mem_append_left _ ho, rest⟩
  · rcases List.mem_append.mp ho with ho | ho
    · rw [Cache.settled?, other _ (new o ho)]
      exact k.taken o ho
    · rw [List.mem_singleton.mp ho]
      exact Or.inl after

end Settled

theorem Run.settles (new : Cache.ofOptions backend options order = .ok c₀) (run : Run c₀ h c)
    (plain : ∀ call ∈ h.calls, call.isPlain = true) : ∃ s, Settled h c s := by
  induction run with
  | nil =>
    rw [Cache.ofOptions_eq_ok new]
    refine ⟨[], ⟨.nil, fun o ho => ?_, List.nodup_nil, List.Pairwise.nil⟩, fun i a hi => ?_, fun o ho => ?_⟩
    · cases ho
    · cases hi
    · cases ho
  | @snoc h c d m run move ih =>
    have earlier : ∀ call ∈ h.calls, call.isPlain = true := fun call hcall =>
      plain call (by rw [History.calls_append]; exact List.mem_append_left _ hcall)
    obtain ⟨s, k⟩ := ih earlier
    have appears := run.appears new earlier move
    cases appears with
    | quiet shelf inserted kept => exact ⟨s, k.quiet move shelf inserted kept⟩
    | stroke known before unsettled alive after other performs =>
      exact ⟨_, k.stroke run known before unsettled alive after other performs⟩

/-- Whatever calls run side by side, in whatever order they take their steps: if they only acquire, invalidate,
    clear, count and look up, they amount to the same calls one after the other, in an order in which a call
    comes after all that were over when it began. -/
theorem Run.linearizable (new : Cache.ofOptions backend options order = .ok c₀) (run : Run c₀ h c)
    (plain : ∀ call ∈ h.calls, call.isPlain = true) : ∃ s, Linearization h c s := by
  obtain ⟨s, k⟩ := run.settles new plain
  exact ⟨s, k.toSequenced, fun i a answer => k.settled i a (Cache.settled?_of_answer answer)⟩

/-- A caller is about to count the entries when another clears them; the count comes after the clearing. -/
def Site.mingled : List (Move Site Nat) :=
  Site.redialed ++ [.start .length, .start .clear, .step 5, .step 5, .step 4, .step 4, .reply 5 .success,
    .start (.contains ⟨[7]⟩), .step 6, .step 6]

theorem Site.mingled_linearizable :
    Cache.ofOptions .keyValue .default .ofInsertion = .ok Site.cache ∧
    Run Site.cache (Site.replay Site.mingled).1 (Site.replay Site.mingled).2 ∧
    (∀ call ∈ (Site.replay Site.mingled).1.calls, call.isPlain = true) ∧
    ∃ s, Linearization (Site.replay Site.mingled).1 (Site.replay Site.mingled).2 s ∧
      (∃ o ∈ s, o.task = 4 ∧ o.answer = .counted 0) ∧ ∃ o ∈ s, o.task = 5 ∧ o.answer = .cleared := by
  have run := Site.run Site.mingled rfl
  have plain : ∀ call ∈ (Site.replay Site.mingled).1.calls, call.isPlain = true := by decide +kernel
  obtain ⟨s, k⟩ := Run.linearizable Site.new run plain
  exact ⟨Site.new, run, plain, s, k, k.complete 4 _ rfl, k.complete 5 _ rfl⟩

end StoreAccess
