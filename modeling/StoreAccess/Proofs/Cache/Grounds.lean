import StoreAccess.Proofs.Cache.Generations
import StoreAccess.Proofs.Cache.Stalls

/-! What a task knows of the leases that it is to evict. Each request of a task comes to an end with what the
    client answered; the last one before an eviction failed, on the lease in question. What an operation made
    unusable is removed by this task or was removed by another. -/

namespace StoreAccess

variable {κ α : Type} [BackendConfig κ] {backend : BackendKind} {options : CacheOptions} {order : EntryOrder}
  {c₀ c d : Cache κ α} {h : History κ α} {i j : Nat} {m : Move κ α} {p q : Phase κ α} {l : Lease}
  {x : Transition κ α}

/-! ### What the client answers a task -/

/-- It is the connection that failed: to dial it, to run an operation on it, or to do so in time. -/
def Error.connectionFailed : Error → Bool
  | dial .. | operation .. | timeout _ => true
  | notFound | bind _ | configuration _ => false

theorem Error.isConnection_eq (e : Error) : e.isConnection = e.connectionFailed := by
  cases e <;> rfl

namespace Reply

def isFailure : Reply α → Bool
  | failure _ | overdue => true
  | success | value _ => false

/-- An operation that ends so makes its handle unusable: its time is over, or the connection failed. -/
def breaks : Reply α → Bool
  | failure e => e.connectionFailed
  | overdue => true
  | success | value _ => false

end Reply

/-- The request of a task that comes to its end, with what came of it. -/
def Transition.exchange? (i : Nat) (x : Transition κ α) : Option (Request κ × Reply α) :=
  match x.move with
  | .reply j r => if j = i then (x.before.request? i).map (·, r) else none
  | _ => none

theorem Transition.exchange?_of_reply {lock : Option Lock} {r : Reply α} {request : Request κ}
    (task : c.tasks[i]? = some ⟨p, lock⟩) (asks : p.request? = some request) :
    (Transition.mk c (.reply i r) d).exchange? i = some (request, r) := by
  simp [exchange?, Cache.request?, Cache.phase?_of_task task, asks]

theorem Transition.exchange?_eq_some {request : Request κ} {r : Reply α}
    (asked : x.exchange? i = some (request, r)) : x.move = .reply i r ∧ x.before.request? i = some request := by
  simp only [exchange?] at asked
  split at asked
  · rename_i j r' hm
    split at asked
    · rename_i same
      subst same
      obtain ⟨request', hr, same⟩ := Option.map_eq_some_iff.mp asked
      cases same
      exact ⟨hm, hr⟩
    · cases asked
  · cases asked

theorem Transition.exchange?_of_other (idle : m.worker? ≠ some i) :
    (Transition.mk c m d).exchange? i = none := by
  cases m with
  | start | step | drop => rfl
  | reply j r =>
    have other : j ≠ i := fun same => idle (congrArg some same)
    simp [exchange?, other]

theorem Phase.operating_of_request? (hr : p.request? = some (.operate l)) :
    ∃ target again, p = .operating target again l := by
  cases p <;> cases hr
  exact ⟨_, _, rfl⟩

namespace History

/-- The requests of a task that came to their ends, in order. -/
def exchanges (i : Nat) (h : History κ α) : List (Request κ × Reply α) :=
  h.filterMap (Transition.exchange? i)

/-- An operation of task `i` made the handle of `l` unusable. -/
def Broke (h : History κ α) (i : Nat) (l : Lease) : Prop :=
  ∃ r, (Request.operate l, r) ∈ h.exchanges i ∧ r.breaks = true

/-- Task `i` took note of all entries when the one of `l` was there. -/
def Noted (h : History κ α) (i : Nat) (l : Lease) : Prop :=
  ∃ x ∈ h, x.move = .step i ∧ (∃ lock, x.before.tasks[i]? = some ⟨.noting, some lock⟩) ∧ l ∈ x.before.cached

theorem exchanges_snoc (h : History κ α) (x : Transition κ α) :
    exchanges i (h ++ [x]) = h.exchanges i ++ (x.exchange? i).toList := by
  cases hx : x.exchange? i <;> simp [exchanges, hx]

theorem exchanges_of_quiet (quiet : x.exchange? i = none) : exchanges i (h ++ [x]) = h.exchanges i := by
  rw [exchanges_snoc, quiet, Option.toList_none, List.append_nil]

theorem last_exchange {y : Request κ × Reply α} (asked : x.exchange? i = some y) :
    (exchanges i (h ++ [x])).getLast? = some y := by
  rw [exchanges_snoc, asked, Option.toList_some, List.getLast?_concat]

theorem mem_removed_snoc (hl : l ∈ h.removed) : l ∈ removed (h ++ [x]) := by
  rw [removed_snoc]
  exact List.mem_append_left _ hl

theorem mem_inserted_snoc (hl : l ∈ h.inserted) : l ∈ inserted (h ++ [x]) := by
  rw [inserted_snoc]
  exact List.mem_append_left _ hl

theorem broke_snoc (broke : Broke (h ++ [x]) i l) :
    h.Broke i l ∨ ∃ r, x.exchange? i = some (.operate l, r) ∧ r.breaks = true := by
  obtain ⟨r, hr, breaks⟩ := broke
  rw [exchanges_snoc, List.mem_append, Option.mem_toList] at hr
  rcases hr with hr | hr
  · exact Or.inl ⟨r, hr, breaks⟩
  · exact Or.inr ⟨r, hr, breaks⟩

theorem Noted.snoc (noted : h.Noted i l) : Noted (h ++ [x]) i l := by
  obtain ⟨y, hy, rest⟩ := noted
  exact ⟨y, List.mem_append_left _ hy, rest⟩

end History

theorem Run.untouched (new : Cache.ofOptions backend options order = .ok c₀) (run : Run c₀ h c)
    (unborn : c.tasks.length ≤ i) (hx : x ∈ h) : x.move.worker? ≠ some i ∧ x.after.tasks.length ≤ i := by
  obtain ⟨h₁, h₂, rfl, before, move, -⟩ := run.upTo hx
  have length : x.after.tasks.length = (History.calls (h₁ ++ [x])).length := ((before.snoc move).admitted new).length
  have regroup : h₁ ++ x :: h₂ = (h₁ ++ [x]) ++ h₂ := by simp
  rw [(run.admitted new).length, regroup, History.calls_append, List.length_append] at unborn
  refine ⟨fun worker => ?_, by omega⟩
  have earlier := Cache.task_of_move move worker
  rw [(before.admitted new).length] at earlier
  rw [History.calls_append, List.length_append] at unborn
  omega

theorem Run.exchanges_of_new (new : Cache.ofOptions backend options order = .ok c₀) (run : Run c₀ h c)
    (unborn : c.tasks.length ≤ i) : h.exchanges i = [] := by
  rw [History.exchanges, List.filterMap_eq_nil_iff]
  exact fun x hx => Transition.exchange?_of_other (run.untouched new unborn hx).1

/-! ### Grounds for an eviction -/

/-- The entries that are still to be probed. -/
def Purpose.noted : Purpose κ → List (Entry κ)
  | .replace rest _ => rest
  | _ => []

def Aftermath.noted : Aftermath κ → List (Entry κ)
  | .probe _ rest _ => rest
  | _ => []

namespace Phase

/-- The entries that the task has noted and is still to probe. -/
def noted : Phase κ α → List (Entry κ)
  | looking _ why | queueing _ why | rechecking _ why | dialing _ why | inserting _ why => why.noted
  | removingLease _ why | closing _ why => why.noted
  | pinging e rest _ => e :: rest
  | _ => []

/-- The lease of which the task is to remove the entry, and why. -/
def evicts? : Phase κ α → Option (Lease × Aftermath κ)
  | removingLease l why => some (l, why)
  | _ => none

/-- The lease of which the task is to remove the entry because an operation made its handle unusable. -/
def condemns? : Phase κ α → Option Lease
  | removingLease l (.attempt ..) => some l
  | _ => none

/-- The task is to evict nothing, and these entries are still to be probed. -/
structure Carries (p : Phase κ α) (rest : List (Entry κ)) : Prop where
  evicts : p.evicts? = none
  noted : p.noted = rest

theorem carries_toPing (rest : List (Entry κ)) (replaced : Nat) :
    (toPing rest replaced : Phase κ α).Carries rest := by
  cases rest <;> exact ⟨rfl, rfl⟩

theorem carries_toClose (rest : List (Entry κ)) : (toClose rest : Phase κ α).Carries [] := by
  cases rest <;> exact ⟨rfl, rfl⟩

theorem carries_afterFailure (target : Target κ) (again : Bool) (e : Error) :
    (afterFailure target again e : Phase κ α).Carries [] := by
  unfold afterFailure
  split <;> exact ⟨rfl, rfl⟩

theorem carries_afterLease (target : Target κ) (why : Purpose κ) (l : Lease) :
    (afterLease target why l : Phase κ α).Carries why.noted := by
  cases why with
  | caller | attempt => exact ⟨rfl, rfl⟩
  | replace rest replaced => exact carries_toPing rest _

theorem carries_afterRefusal (target : Target κ) (why : Purpose κ) (e : Error) :
    (afterRefusal target why e : Phase κ α).Carries why.noted := by
  cases why with
  | caller => exact ⟨rfl, rfl⟩
  | attempt again => exact carries_afterFailure target again e
  | replace rest replaced => exact carries_toPing rest _

theorem carries_afterRemoval (why : Aftermath κ) (found : Bool) :
    (afterRemoval why found : Phase κ α).Carries why.noted := by
  cases why with
  | caller => exact ⟨rfl, rfl⟩
  | attempt target again e => exact carries_afterFailure target again e
  | probe target rest replaced =>
    cases found
    · exact carries_toPing rest replaced
    · exact ⟨rfl, rfl⟩
  | clear rest => exact carries_toClose rest

end Phase

/-- Why the entry of a lease may be removed in the course of a call: the last thing that the client did for
    the task was to fail it on this lease. -/
inductive Grounds (h : History κ α) (i : Nat) (l : Lease) : Aftermath κ → Prop
  | caller : Grounds h i l .caller
  | clear {rest : List (Entry κ)} : Grounds h i l (.clear rest)
  | operated {target : Target κ} {again : Bool} {e : Error} {r : Reply α}
      (last : (h.exchanges i).getLast? = some (.operate l, r)) (breaks : r.breaks = true)
      (inserted : l ∈ h.inserted) : Grounds h i l (.attempt target again e)
  | probed {target : Target κ} {rest : List (Entry κ)} {replaced : Nat} {r : Reply α}
      (last : (h.exchanges i).getLast? = some (.ping l, r)) (failed : r.isFailure = true)
      (noted : h.Noted i l) : Grounds h i l (.probe target rest replaced)

theorem Grounds.snoc {why : Aftermath κ} (grounds : Grounds h i l why) (quiet : x.exchange? i = none) :
    Grounds (h ++ [x]) i l why := by
  cases grounds with
  | caller => exact .caller
  | clear => exact .clear
  | operated last breaks inserted =>
    rw [← History.exchanges_of_quiet quiet] at last
    exact .operated last breaks (History.mem_inserted_snoc inserted)
  | probed last failed noted =>
    rw [← History.exchanges_of_quiet quiet] at last
    exact .probed last failed noted.snoc

theorem Grounds.inserted {target : Target κ} {again : Bool} {e : Error}
    (grounds : Grounds h i l (.attempt target again e)) : l ∈ h.inserted := by
  cases grounds
  assumption

/-- The task has grounds for what it evicts, and what its operations made unusable is gone or about to be
    evicted. -/
structure Judged (h : History κ α) (i : Nat) (p : Phase κ α) : Prop where
  grounds : ∀ l why, p.evicts? = some (l, why) → Grounds h i l why
  noted : ∀ e ∈ p.noted, h.Noted i e.lease
  broken : ∀ l, h.Broke i l → l ∈ h.removed ∨ p.condemns? = some l ∨ p.isDropped = true

namespace Judged

theorem removed_of_broke (k : Judged h i p) (idle : p.condemns? = none) (alive : p.isDropped = false)
    (broke : h.Broke i l) : l ∈ h.removed := by
  rcases k.broken l broke with removed | condemned | dropped
  · exact removed
  · rw [idle] at condemned
    cases condemned
  · rw [alive] at dropped
    cases dropped

/-- What is unusable after a move was gone before it, or this move is the end of its operation. -/
theorem broke_snoc (k : Judged h i p) (idle : p.condemns? = none) (alive : p.isDropped = false)
    (broke : History.Broke (h ++ [x]) i l) :
    l ∈ History.removed (h ++ [x]) ∨ ∃ r, x.exchange? i = some (.operate l, r) ∧ r.breaks = true := by
  rcases History.broke_snoc broke with broke | ends
  · exact Or.inl (History.mem_removed_snoc (k.removed_of_broke idle alive broke))
  · exact Or.inr ends

theorem keep (k : Judged h i p) (quiet : x.exchange? i = none) : Judged (h ++ [x]) i p where
  grounds l why hp := (k.grounds l why hp).snoc quiet
  noted e he := (k.noted e he).snoc
  broken l broke := by
    rcases History.broke_snoc broke with broke | ⟨r, hr, -⟩
    · exact (k.broken l broke).imp_left History.mem_removed_snoc
    · rw [quiet] at hr
      cases hr

theorem pass (k : Judged h i p) (idle : p.condemns? = none) (alive : p.isDropped = false)
    (sound : ∀ l r, x.exchange? i = some (.operate l, r) → r.breaks = false) {rest : List (Entry κ)}
    (there : q.Carries rest) (noted : ∀ e ∈ rest, e ∈ p.noted) : Judged (h ++ [x]) i q where
  grounds l why hq := by
    rw [there.evicts] at hq
    cases hq
  noted e he := (k.noted e (noted e (there.noted ▸ he))).snoc
  broken l broke := by
    rcases k.broke_snoc idle alive broke with removed | ⟨r, hr, breaks⟩
    · exact Or.inl removed
    · rw [sound l r hr] at breaks
      cases breaks

end Judged

/-! ### Leases are of entries -/

theorem Run.inserted_of_outcome (new : Cache.ofOptions backend options order = .ok c₀) (run : Run c₀ h c)
    (hp : c.phase? i = some p) (ho : p.outcome? = some (.ok l)) : l ∈ h.inserted := by
  rcases run.outcome_cases new hp ho with ⟨l', same, x, hx, -, lent⟩ | ⟨e, he, -⟩
  · cases same
    obtain ⟨h₁, h₂, rfl, before, move, -⟩ := run.upTo hx
    have after : Ledger (h₁ ++ [x]) x.after := (before.snoc move).ledger new
    have there := List.count_pos_iff.mpr (Transition.cached_of_lent? move lent)
    have books := after.inserted l
    have inserted : l ∈ History.inserted (h₁ ++ [x]) := List.count_pos_iff.mp (by omega)
    have regroup : h₁ ++ x :: h₂ = (h₁ ++ [x]) ++ h₂ := by simp
    rw [regroup, History.inserted, List.flatMap_append]
    exact List.mem_append_left _ inserted
  · cases he

/-! ### What a move does to the grounds -/

namespace Judged

variable {why : Aftermath κ}

theorem evict (k : Judged h i (.removingLease l why)) (quiet : x.exchange? i = none) {rest : List (Entry κ)}
    (there : q.Carries rest) (noted : rest = why.noted)
    (gone : ∀ target again e, why = .attempt target again e → l ∈ History.removed (h ++ [x])) :
    Judged (h ++ [x]) i q where
  grounds l why hq := by
    rw [there.evicts] at hq
    cases hq
  noted e he := by
    rw [there.noted, noted] at he
    exact (k.noted e he).snoc
  broken l' broke := by
    rcases (k.keep quiet).broken l' broke with removed | condemned | dropped
    · exact Or.inl removed
    · cases why with
      | attempt target again e =>
        cases condemned
        exact Or.inl (gone target again e rfl)
      | _ => cases condemned
    · cases dropped

theorem evicted (k : Judged h i (.removingLease l why : Phase κ α)) (ledger : Ledger h c) {e : Entry κ}
    (entry : c.entry? l.fingerprint = some e) (same : e.generation = l.generation)
    (erased : d.cached = (c.erase l.fingerprint).cached) :
    Judged (h ++ [⟨c, .step i, d⟩]) i (.closing e why : Phase κ α) := by
  refine k.evict rfl ⟨rfl, rfl⟩ rfl ?_
  rintro target again err rfl
  -- No generation is put in twice, so what is found is the entry of the lease itself.
  have there := ledger.inserted_of_cached (List.mem_map_of_mem (Cache.entry?_eq_some entry).1)
  have only : e.lease = l := ledger.eq_of_generation there (k.grounds _ _ rfl).inserted same
  rw [History.removed_snoc, Transition.removed_of_entry ledger.gated entry erased, only]
  exact List.mem_append_right _ (List.mem_singleton_self _)

/-- The entry of the lease is gone already, and a later one is left alone. -/
theorem spared (k : Judged h i (.removingLease l why : Phase κ α)) (ledger : Ledger h c)
    (entry : ∀ e, c.entry? l.fingerprint = some e → e.generation ≠ l.generation) :
    Judged (h ++ [⟨c, .step i, d⟩]) i (.afterRemoval why false : Phase κ α) := by
  refine k.evict rfl (Phase.carries_afterRemoval _ _) rfl ?_
  rintro target again err rfl
  -- It was put in once and is not there any more.
  refine History.mem_removed_snoc (ledger.removed_of_uncached (k.grounds _ _ rfl).inserted fun cached => ?_)
  obtain ⟨e, he, rfl⟩ := List.mem_map.mp cached
  exact entry e (Cache.entry?_of_mem ledger.gated he) rfl

theorem note {lock : Lock} {es : List (Entry κ)} (k : Judged h i (.noting : Phase κ α))
    (task : c.tasks[i]? = some ⟨.noting, some lock⟩) (all : es.Perm c.entries) :
    Judged (h ++ [⟨c, .step i, d⟩]) i (.toPing es 0 : Phase κ α) := by
  have there := Phase.carries_toPing (α := α) es 0
  refine ⟨fun l why hq => ?_, fun e he => ?_, fun l broke => ?_⟩
  · rw [there.evicts] at hq
    cases hq
  · rw [there.noted] at he
    have cached : e.lease ∈ c.cached := List.mem_map_of_mem (all.mem_iff.mp he)
    exact ⟨_, List.mem_append_right _ (List.mem_singleton_self _), rfl, ⟨_, task⟩, cached⟩
  · rcases k.broke_snoc rfl rfl broke with removed | ⟨r, hr, -⟩
    · exact Or.inl removed
    · cases hr

theorem failed {target : Target κ} {again : Bool} {r : Reply α} {e : Error} (inserted : l ∈ h.inserted)
    (k : Judged h i (.operating target again l)) (asked : x.exchange? i = some (.operate l, r))
    (error : r.breaks = e.isConnection) : Judged (h ++ [x]) i (.afterOperation target again l e) := by
  unfold Phase.afterOperation
  split
  · rename_i connection
    rw [connection] at error
    refine ⟨fun l' why hq => ?_, fun e he => (by cases he), fun l' broke => ?_⟩
    · cases hq
      exact .operated (History.last_exchange asked) error (History.mem_inserted_snoc inserted)
    · rcases k.broke_snoc rfl rfl broke with removed | ⟨r', hr, -⟩
      · exact Or.inl removed
      · rw [asked] at hr
        cases hr
        exact Or.inr (Or.inl rfl)
  · rename_i connection
    have there : (Phase.finished (.ran (.error e)) : Phase κ α).Carries [] := ⟨rfl, rfl⟩
    refine k.pass rfl rfl (fun l' r' hr => ?_) there fun e he => (by cases he)
    rw [asked] at hr
    cases hr
    rw [error]
    exact eq_false_of_ne_true connection

theorem unpinged {e : Entry κ} {rest : List (Entry κ)} {replaced : Nat} {r : Reply α}
    (k : Judged h i (.pinging e rest replaced : Phase κ α)) (asked : x.exchange? i = some (.ping e.lease, r))
    (failed : r.isFailure = true) :
    Judged (h ++ [x]) i (.removingLease e.lease (.probe e.target rest replaced) : Phase κ α) where
  grounds l why hq := by
    cases hq
    exact .probed (History.last_exchange asked) failed (k.noted e (List.mem_cons_self ..)).snoc
  noted e' he := (k.noted e' (List.mem_cons_of_mem _ he)).snoc
  broken l broke := by
    rcases k.broke_snoc rfl rfl broke with removed | ⟨r', hr, -⟩
    · exact Or.inl removed
    · rw [asked] at hr
      cases hr

theorem drop : Judged h i (.dropped : Phase κ α) where
  grounds l why hq := by cases hq
  noted e he := by cases he
  broken l broke := Or.inr (Or.inr rfl)

end Judged

/-- Every task has grounds for what it is about to do. -/
def Grounded (h : History κ α) (c : Cache κ α) : Prop := ∀ i p, c.phase? i = some p → Judged h i p

namespace Grounded

section
variable {c' : Cache κ α} {lock : Option Lock} {rest : List (Entry κ)}

theorem enter (k : Grounded h c) (worker : m.worker? = some i) (enters : c'.Enters i q d)
    (same : c'.tasks = c.tasks) (judged : Judged (h ++ [⟨c, m, d⟩]) i q) :
    Grounded (h ++ [⟨c, m, d⟩]) d := by
  intro j p hp
  rcases enters.phase_cases same hp with ⟨rfl, rfl⟩ | ⟨other, hp⟩
  · exact judged
  · refine (k j p hp).keep (Transition.exchange?_of_other fun busy => other ?_)
    exact Option.some.inj (busy.symm.trans worker)

theorem step (k : Grounded h c) (enters : c'.Enters i q d) (same : c'.tasks = c.tasks)
    (task : c.tasks[i]? = some ⟨p, lock⟩) (idle : p.condemns? = none) (alive : p.isDropped = false)
    (there : q.Carries rest) (noted : ∀ e ∈ rest, e ∈ p.noted) : Grounded (h ++ [⟨c, .step i, d⟩]) d := by
  have here := k i p (Cache.phase?_of_task task)
  refine k.enter rfl enters same (here.pass idle alive (fun l r asked => ?_) there noted)
  cases asked

theorem reply (k : Grounded h c) {r : Reply α} {request : Request κ} (enters : c'.Enters i q d)
    (same : c'.tasks = c.tasks) (task : c.tasks[i]? = some ⟨p, lock⟩) (asks : p.request? = some request)
    (sound : ∀ l, request = .operate l → r.breaks = false) (there : q.Carries rest)
    (noted : ∀ e ∈ rest, e ∈ p.noted) : Grounded (h ++ [⟨c, .reply i r, d⟩]) d := by
  have here := k i p (Cache.phase?_of_task task)
  have idle : p.condemns? = none := by cases p <;> first | rfl | cases asks
  have alive : p.isDropped = false := by cases p <;> first | rfl | cases asks
  refine k.enter rfl enters same (here.pass idle alive (fun l r' asked => ?_) there noted)
  rw [Transition.exchange?_of_reply task asks] at asked
  cases asked
  exact sound l rfl

end

theorem snoc (new : Cache.ofOptions backend options order = .ok c₀) (run : Run c₀ h c) (k : Grounded h c)
    (move : c.move m = some d) : Grounded (h ++ [⟨c, m, d⟩]) d := by
  have ledger := run.ledger new
  have does := Cache.does_of_move move
  cases does with
  | @start call =>
    intro j p hp
    rcases Cache.start_phase_cases hp with hp | ⟨rfl, rfl⟩
    · exact (k j p hp).keep rfl
    · refine ⟨fun l why hq => ?_, fun e he => ?_, fun l broke => ?_⟩
      · cases call with
        | invalidateLease =>
          cases hq
          exact .caller
        | _ => cases hq
      · cases call <;> cases he
      · obtain ⟨r, hr, -⟩ := broke
        rw [History.exchanges_of_quiet rfl, run.exchanges_of_new new (Nat.le_refl _)] at hr
        cases hr
  | lock task =>
    intro j p hp
    rw [Cache.lock_phase? task] at hp
    exact (k j p hp).keep rfl
  | hit task _ enters =>
    exact k.step enters rfl task rfl rfl (Phase.carries_afterLease _ _ _) fun _ he => he
  | share task _ enters =>
    exact k.step enters rfl task rfl rfl (Phase.carries_afterLease _ _ _) fun _ he => he
  | insert task enters =>
    exact k.step enters rfl task rfl rfl (Phase.carries_afterLease _ _ _) fun _ he => he
  | reject task _ _ enters =>
    exact k.step enters rfl task rfl rfl (Phase.carries_afterRefusal _ _ _) fun _ he => he
  | miss task _ enters | dial task _ _ enters =>
    exact k.step enters rfl task rfl rfl ⟨rfl, rfl⟩ fun _ he => he
  | queue task enters => exact k.step enters rfl task rfl rfl ⟨rfl, rfl⟩ fun _ he => he
  | remove task _ enters | removeNone task _ enters =>
    exact k.step enters rfl task rfl rfl ⟨rfl, rfl⟩ fun _ he => by cases he
  | count task enters | contain task enters =>
    exact k.step enters rfl task rfl rfl ⟨rfl, rfl⟩ fun _ he => by cases he
  | drain task _ enters =>
    exact k.step enters rfl task rfl rfl (Phase.carries_toClose _) fun _ he => by cases he
  | note task all enters => exact k.enter rfl enters rfl ((k _ _ (Cache.phase?_of_task task)).note task all)
  | evict task entry same enters =>
    have here := k _ _ (Cache.phase?_of_task task)
    exact k.enter rfl enters rfl (here.evicted ledger entry same enters.cached_eq)
  | evictNone task entry enters =>
    exact k.enter rfl enters rfl ((k _ _ (Cache.phase?_of_task task)).spared ledger entry)
  | dialed task enters => exact k.reply enters rfl task rfl (by simp) ⟨rfl, rfl⟩ fun _ he => he
  | undialed task reply enters =>
    exact k.reply enters rfl task rfl (by simp) (Phase.carries_afterRefusal _ _ _) fun _ he => he
  | operated task enters =>
    exact k.reply enters rfl task rfl (fun _ _ => rfl) ⟨rfl, rfl⟩ fun _ he => by cases he
  | @failed i target again lease lock r err _ task reply enters =>
    have here := k _ _ (Cache.phase?_of_task task)
    have inserted := run.inserted_of_outcome new (Cache.phase?_of_task task) rfl
    refine k.enter rfl enters rfl (here.failed inserted (Transition.exchange?_of_reply task rfl) ?_)
    rcases reply with rfl | ⟨rfl, rfl⟩
    · exact err.isConnection_eq.symm
    · rfl
  | pinged task enters =>
    exact k.reply enters rfl task rfl (by simp) (Phase.carries_toPing _ _) fun _ he => List.mem_cons_of_mem _ he
  | unpinged task reply enters =>
    have here := k _ _ (Cache.phase?_of_task task)
    refine k.enter rfl enters rfl (here.unpinged (Transition.exchange?_of_reply task rfl) ?_)
    rcases reply with ⟨err, rfl⟩ | rfl <;> rfl
  | closed task reply enters =>
    exact k.reply enters rfl task rfl (by simp) (Phase.carries_afterRemoval _ _) fun _ he => he
  | drop task _ enters =>
    intro j p hp
    rcases enters.phase_cases (c := c) rfl hp with ⟨rfl, rfl⟩ | ⟨-, hp⟩
    · exact .drop
    · exact (k j p hp).keep rfl

end Grounded

theorem Run.grounded (new : Cache.ofOptions backend options order = .ok c₀) (run : Run c₀ h c) : Grounded h c := by
  induction run with
  | nil =>
    rw [Cache.ofOptions_eq_ok new]
    intro i p hp
    cases hp
  | snoc run move ih => exact ih.snoc new run move

end StoreAccess
