import Mathlib.Algebra.GroupWithZero.Nat
import StoreAccess.Proofs.Cache.Progress

/-! Calls end. Apart from the tasks that are still to take all entries, however many there are by then,
    each task is a bounded number of moves from its end; a move of any task lowers what is left. -/

namespace StoreAccess

variable {κ α : Type} [BackendConfig κ]

/-! ### What is left to do -/

/-- A bound on the phases that a task goes through once it has its lease. -/
def Purpose.rest : Purpose κ → Nat
  | .caller => 0
  | .attempt again => if again then 3 else 11
  | .replace rest _ => 8 * rest.length

/-- A bound on the phases that a task goes through once it has closed the handle. -/
def Aftermath.rest : Aftermath κ → Nat
  | .caller => 0
  | .attempt _ again _ => if again then 0 else 8
  | .probe _ rest _ => 5 + 8 * rest.length
  | .clear rest => rest.length

namespace Phase

/-- A bound on the phases that a task still goes through. -/
def rest : Phase κ α → Nat
  | looking _ why => 5 + why.rest
  | queueing _ why => 4 + why.rest
  | rechecking _ why => 3 + why.rest
  | dialing _ why => 2 + why.rest
  | inserting _ why => 1 + why.rest
  | operating _ again _ => if again then 3 else 11
  | removing _ => 2
  | removingLease _ why => 2 + why.rest
  | closing _ why => 1 + why.rest
  | pinging _ rest _ => 8 + 8 * rest.length
  | counting | containing _ => 1
  | draining | noting | finished _ | dropped => 0

/-- The task is still to take all entries, however many there are by then. -/
def takesAll : Phase κ α → Bool
  | draining | noting => true
  | _ => false

/-- At most so many phases follow. -/
structure Within (p : Phase κ α) (n : Nat) : Prop where
  takesAll : p.takesAll = false
  rest : p.rest ≤ n

theorem within_toPing (rest : List (Entry κ)) (replaced : Nat) :
    (toPing rest replaced : Phase κ α).Within (8 * rest.length) := by
  cases rest with
  | nil => exact ⟨rfl, Nat.le_refl _⟩
  | cons e rest => exact ⟨rfl, by simp only [toPing, Phase.rest, List.length_cons]; omega⟩

theorem within_toClose (rest : List (Entry κ)) : (toClose rest : Phase κ α).Within rest.length := by
  cases rest with
  | nil => exact ⟨rfl, Nat.le_refl _⟩
  | cons e rest => exact ⟨rfl, by simp only [toClose, Phase.rest, Aftermath.rest, List.length_cons]; omega⟩

theorem within_afterFailure (target : Target κ) (again : Bool) (e : Error) :
    (afterFailure target again e : Phase κ α).Within (if again then 0 else 8) := by
  unfold afterFailure
  cases again with
  | false => split <;> exact ⟨rfl, by simp [Phase.rest, Purpose.rest]⟩
  | true => exact ⟨by simp [Phase.takesAll], by simp [Phase.rest]⟩

theorem within_afterLease (target : Target κ) (why : Purpose κ) (l : Lease) :
    (afterLease target why l : Phase κ α).Within why.rest := by
  cases why with
  | caller | attempt => exact ⟨rfl, Nat.le_refl _⟩
  | replace rest replaced => exact within_toPing rest _

theorem within_afterRefusal (target : Target κ) (why : Purpose κ) (e : Error) :
    (afterRefusal target why e : Phase κ α).Within why.rest := by
  cases why with
  | caller => exact ⟨rfl, Nat.le_refl _⟩
  | attempt again =>
    obtain ⟨takesAll, bound⟩ := within_afterFailure (α := α) target again e
    refine ⟨takesAll, Nat.le_trans bound ?_⟩
    cases again <;> simp [Purpose.rest]
  | replace rest replaced => exact within_toPing rest _

theorem within_afterRemoval (why : Aftermath κ) (found : Bool) :
    (afterRemoval why found : Phase κ α).Within why.rest := by
  cases why with
  | caller => exact ⟨rfl, Nat.le_refl _⟩
  | attempt target again e => exact within_afterFailure target again e
  | probe target rest replaced =>
    cases found
    · obtain ⟨takesAll, bound⟩ := within_toPing (α := α) rest replaced
      exact ⟨takesAll, Nat.le_trans bound (Nat.le_add_left _ _)⟩
    · exact ⟨rfl, Nat.le_refl _⟩
  | clear rest => exact within_toClose rest

theorem within_afterOperation (target : Target κ) (again : Bool) (l : Lease) (e : Error) :
    (afterOperation target again l e : Phase κ α).Within (if again then 2 else 10) := by
  unfold afterOperation
  split <;> cases again <;> exact ⟨rfl, by simp [Phase.rest, Aftermath.rest]⟩

end Phase

/-- A bound on the moves that a task still makes, each phase having a lock to take first. -/
def Task.cost (t : Task κ α) : Nat := 2 * t.phase.rest + if t.lock.isNone then 1 else 0

namespace Cache

/-- How many tasks are still to take all entries. -/
def snapshots (c : Cache κ α) : Nat := (c.tasks.map fun t => if t.phase.takesAll then 1 else 0).sum

def cost (c : Cache κ α) : Nat := (c.tasks.map Task.cost).sum

/-- Less is still to be done. -/
def Less (d c : Cache κ α) : Prop :=
  Prod.Lex (· < ·) (· < ·) (d.snapshots, d.cost) (c.snapshots, c.cost)

variable {c c' d : Cache κ α} {m : Move κ α} {i : Nat}

theorem Enters.less {p q : Phase κ α} {l : Option Lock} {n : Nat} (h : c'.Enters i q d)
    (htasks : c'.tasks = c.tasks) (task : c.tasks[i]? = some ⟨p, l⟩) (next : q.Within n)
    (before : p.takesAll = false → n < p.rest) : d.Less c := by
  have snapshots := sum_map_set (fun t : Task κ α => if t.phase.takesAll then 1 else 0) ⟨q, none⟩ task
  have cost := sum_map_set Task.cost ⟨q, none⟩ task
  rw [← htasks, ← h.tasks] at snapshots cost
  simp only [next.takesAll, Bool.false_eq_true, ↓reduceIte, Nat.add_zero] at snapshots
  cases takes : p.takesAll with
  | true =>
    simp only [takes, ↓reduceIte, htasks] at snapshots
    exact Prod.Lex.left _ _ (by simp only [Cache.snapshots]; omega)
  | false =>
    simp only [takes, Bool.false_eq_true, ↓reduceIte, Nat.add_zero, htasks] at snapshots
    have phases : q.rest < p.rest := Nat.lt_of_le_of_lt next.rest (before takes)
    have same : d.snapshots = c.snapshots := snapshots
    unfold Less
    rw [same]
    refine Prod.Lex.right _ ?_
    simp only [Task.cost, Option.isNone_none, ↓reduceIte, htasks] at cost
    simp only [Cache.cost]
    have locked : (if l.isNone then 1 else 0) ≤ 1 := by split <;> omega
    omega

/-- Whoever goes on has less to do afterwards. -/
theorem less_of_move (h : c.move m = some d) (worker : m.worker?.isSome) : d.Less c := by
  have does := does_of_move h
  cases does with
  | start | drop => cases worker
  | @lock i p l task needs =>
    have snapshots := sum_map_set (fun t : Task κ α => if t.phase.takesAll then 1 else 0) ⟨p, some l⟩ task
    have cost := sum_map_set Task.cost ⟨p, some l⟩ task
    have same : Cache.snapshots { c with tasks := c.tasks.set i ⟨p, some l⟩ } = c.snapshots :=
      Nat.add_right_cancel snapshots
    unfold Less
    rw [same]
    refine Prod.Lex.right _ ?_
    simp only [Task.cost, Option.isNone_none, Option.isNone_some, Bool.false_eq_true, ↓reduceIte] at cost
    simp only [Cache.cost]
    omega
  | hit task _ enters =>
    exact enters.less rfl task (Phase.within_afterLease _ _ _) fun _ => by simp only [Phase.rest]; omega
  | miss task _ enters =>
    exact enters.less rfl task ⟨rfl, Nat.le_refl _⟩ fun _ => by simp only [Phase.rest]; omega
  | queue task enters =>
    exact enters.less rfl task ⟨rfl, Nat.le_refl _⟩ fun _ => by simp only [Phase.rest]; omega
  | share task _ enters =>
    exact enters.less rfl task (Phase.within_afterLease _ _ _) fun _ => by simp only [Phase.rest]; omega
  | reject task _ _ enters =>
    exact enters.less rfl task (Phase.within_afterRefusal _ _ _) fun _ => by simp only [Phase.rest]; omega
  | dial task _ _ enters =>
    exact enters.less rfl task ⟨rfl, Nat.le_refl _⟩ fun _ => by simp only [Phase.rest]; omega
  | insert task enters =>
    exact enters.less rfl task (Phase.within_afterLease _ _ _) fun _ => by simp only [Phase.rest]; omega
  | remove task _ enters =>
    exact enters.less rfl task ⟨rfl, Nat.le_refl _⟩ fun _ => by simp [Phase.rest, Aftermath.rest]
  | removeNone task _ enters => exact enters.less rfl task ⟨rfl, Nat.le_refl _⟩ fun _ => by simp [Phase.rest]
  | evict task _ _ enters =>
    exact enters.less rfl task ⟨rfl, Nat.le_refl _⟩ fun _ => by simp only [Phase.rest]; omega
  | evictNone task _ enters =>
    exact enters.less rfl task (Phase.within_afterRemoval _ _) fun _ => by simp only [Phase.rest]; omega
  | drain task _ enters => exact enters.less rfl task (Phase.within_toClose _) fun h => by cases h
  | note task _ enters => exact enters.less rfl task (Phase.within_toPing _ _) fun h => by cases h
  | count task enters => exact enters.less rfl task ⟨rfl, Nat.le_refl _⟩ fun _ => by simp [Phase.rest]
  | contain task enters => exact enters.less rfl task ⟨rfl, Nat.le_refl _⟩ fun _ => by simp [Phase.rest]
  | dialed task enters =>
    exact enters.less rfl task ⟨rfl, Nat.le_refl _⟩ fun _ => by simp only [Phase.rest]; omega
  | undialed task _ enters =>
    exact enters.less rfl task (Phase.within_afterRefusal _ _ _) fun _ => by simp only [Phase.rest]; omega
  | @operated _ _ again _ _ _ _ task enters =>
    exact enters.less rfl task ⟨rfl, Nat.le_refl _⟩ fun _ => by cases again <;> simp [Phase.rest]
  | @failed _ _ again _ _ _ _ _ task _ enters =>
    exact enters.less rfl task (Phase.within_afterOperation _ _ _ _) fun _ => by cases again <;> simp [Phase.rest]
  | pinged task enters =>
    exact enters.less rfl task (Phase.within_toPing _ _) fun _ => by simp only [Phase.rest]; omega
  | unpinged task _ enters =>
    exact enters.less rfl task ⟨rfl, Nat.le_refl _⟩ fun _ => by simp only [Phase.rest, Aftermath.rest]; omega
  | closed task _ enters =>
    exact enters.less rfl task (Phase.within_afterRemoval _ _) fun _ => by simp only [Phase.rest]; omega

theorem less_wf : WellFounded (Less (κ := κ) (α := α)) :=
  InvImage.wf (fun c : Cache κ α => (c.snapshots, c.cost)) (Prod.lex Nat.lt_wfRel Nat.lt_wfRel).wf

/-- Without new calls nothing goes on for ever. -/
theorem not_endless (s : Nat → Cache κ α) :
    ¬∀ n, ∃ m, m.worker?.isSome ∧ (s n).move m = some (s (n + 1)) := by
  intro endless
  have none : ∀ c n, s n = c → False := fun c => by
    induction c using less_wf.induction with
    | h c ih =>
      intro n hn
      obtain ⟨m, worker, move⟩ := endless n
      exact ih _ (hn ▸ less_of_move move worker) (n + 1) rfl
  exact none _ 0 rfl

end Cache

/-- The calls of a run end, if the client answers. -/
theorem Run.ends {backend : BackendKind} {options : CacheOptions} {order : EntryOrder} {c₀ c : Cache κ α}
    {h : History κ α} (new : Cache.ofOptions backend options order = .ok c₀) (run : Run c₀ h c) :
    ∃ h' d, Run c h' d ∧ (∀ x ∈ h', x.move.worker?.isSome) ∧
      ∀ i p, d.phase? i = some p → p.isOver = true := by
  induction c using Cache.less_wf.induction generalizing h with
  | h c ih =>
    by_cases able : ∃ m d, m.worker?.isSome ∧ c.move m = some d
    · obtain ⟨m, d, worker, move⟩ := able
      obtain ⟨h', d', rest, workers, ended⟩ := ih d (Cache.less_of_move move worker) (run.snoc move)
      refine ⟨⟨c, m, d⟩ :: h', d', rest.cons move, fun x hx => ?_, ended⟩
      rcases List.mem_cons.mp hx with rfl | hx
      · exact worker
      · exact workers x hx
    · refine ⟨[], c, .nil, fun x hx => (by cases hx), run.over_of_stuck new fun m worker => ?_⟩
      cases move : c.move m with
      | none => rfl
      | some d => exact absurd ⟨m, d, worker, move⟩ able

end StoreAccess
