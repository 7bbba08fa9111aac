import StoreAccess.Proofs.Cache.Abandonment
import StoreAccess.Proofs.Cache.Solitude

/-! The way of a task that is alone with a client. The client has one answer to each request, and nobody else moves, so
    at each point one move is due: the client's answer to the request that the task waits for, or else the task's next
    step. From one cache there is one way to the end. -/

namespace StoreAccess

variable {κ α : Type} [BackendConfig κ] {answer : Request κ → Reply α} {c c' d d' : Cache κ α} {h h' : History κ α}
  {i : Nat} {m : Move κ α} {p q : Phase κ α} {l : Lock}

/-! ### The move that is due -/

namespace Cache

/-- The move that is due: the client's answer to the request that the task waits for, or the task's next step. -/
def turn (c : Cache κ α) (answer : Request κ → Reply α) (i : Nat) : Move κ α :=
  match c.request? i with
  | some r => .reply i (answer r)
  | none => .step i

theorem turn_of_request {r : Request κ} (hp : c.phase? i = some p) (asks : p.request? = some r) :
    c.turn answer i = .reply i (answer r) := by
  rw [turn, request?, hp, Option.bind_some, asks]

theorem turn_of_idle (hp : c.phase? i = some p) (idle : p.request? = none) : c.turn answer i = .step i := by
  rw [turn, request?, hp, Option.bind_some, idle]

theorem move_turn_of_over (hp : c.phase? i = some p) (ended : p.isOver = true) : c.move (c.turn answer i) = none := by
  have idle : p.request? = none := by cases p <;> first | rfl | cases ended
  rw [turn_of_idle hp idle]
  exact step_of_over hp ended

/-! ### A task alone -/

/-- The task is in this phase, alone and without a lock. -/
structure Solo (c : Cache κ α) (i : Nat) (p : Phase κ α) : Prop where
  alone : c.Alone i
  orderly : c.Orderly
  task : c.tasks[i]? = some ⟨p, none⟩

namespace Solo

theorem phase (solo : c.Solo i p) : c.phase? i = some p := phase?_of_task solo.task

/-- When all calls are over, whoever makes one is alone. -/
theorem start (orderly : c.Orderly) (quiet : ∀ j p, c.phase? j = some p → p.isOver = true) (call : Call κ) :
    (c.start call).Solo c.tasks.length (.ofCall call) where
  alone j p other hp := by
    rcases start_phase_cases hp with hp | ⟨same, -⟩
    · exact quiet j p hp
    · exact absurd same other
  orderly := orderly.start call
  task := List.getElem?_concat_length

/-- It takes the lock that its phase needs: nobody holds another, and nobody else stands at its gate. -/
theorem step_eq_lock (solo : c.Solo i p) (needs : p.lock? = some l) :
    c.step i = some { c with tasks := c.tasks.set i ⟨p, some l⟩ } := by
  have ongoing : p.isOver = false := by cases p <;> first | rfl | cases needs
  have idle : p.request? = none := by cases p <;> first | rfl | cases needs
  rcases solo.alone.able solo.orderly solo.phase ongoing with able | ⟨r, asks⟩
  · simp only [step, solo.task, needs, Option.bind_eq_bind, Option.bind_some] at able ⊢
    split at able
    · rw [if_pos ‹_›]
    · cases able
  · rw [idle] at asks
    cases asks

end Solo

end Cache

/-! ### The way -/

/-- The task goes from `c` to `d` alone, by the moves that are due. -/
structure Way (answer : Request κ → Reply α) (i : Nat) (c : Cache κ α) (h : History κ α) (d : Cache κ α) : Prop where
  run : Run c h d
  turns : ∀ x ∈ h, x.move = x.before.turn answer i

theorem Run.eq_of_nil (run : Run c [] d) : d = c := by
  generalize none : ([] : History κ α) = h at run
  cases run with
  | nil => rfl
  | snoc => simp at none

namespace Way

theorem nil : Way answer i c [] c := ⟨.nil, fun _ there => by cases there⟩

theorem snoc (way : Way answer i c h d) (move : d.move m = some d') (due : m = d.turn answer i) :
    Way answer i c (h ++ [⟨d, m, d'⟩]) d' where
  run := way.run.snoc move
  turns x there := by
    rcases List.mem_append.mp there with before | last
    · exact way.turns x before
    · rw [List.mem_singleton.mp last, due]

/-- The first move of a way is the one that is due. -/
theorem head {x : Transition κ α} (way : Way answer i c (x :: h) d) :
    x = ⟨c, c.turn answer i, x.after⟩ ∧ c.move (c.turn answer i) = some x.after ∧ Way answer i x.after h d := by
  obtain ⟨before, move, rest⟩ : Run c [] x.before ∧ _ := Run.split way.run
  have first : x.before = c := before.eq_of_nil
  have due := way.turns x List.mem_cons_self
  subst first
  exact ⟨due ▸ rfl, due ▸ move, rest, fun y there => way.turns y (List.mem_cons_of_mem x there)⟩

/-- Nothing is due for a task that is over. -/
theorem of_over (way : Way answer i c h d) (hp : c.phase? i = some p) (ended : p.isOver = true) : h = [] ∧ d = c := by
  cases h with
  | nil => exact ⟨rfl, way.run.eq_of_nil⟩
  | cons x h =>
    obtain ⟨-, move, -⟩ := way.head
    rw [Cache.move_turn_of_over hp ended] at move
    cases move

/-- There is one way to the end. -/
theorem unique (way : Way answer i c h d) (other : Way answer i c h' d') (hp : d.phase? i = some p)
    (ended : p.isOver = true) (hq : d'.phase? i = some q) (ended' : q.isOver = true) : h = h' ∧ d = d' := by
  induction h generalizing c h' with
  | nil =>
    obtain rfl := way.run.eq_of_nil
    obtain ⟨rfl, rfl⟩ := other.of_over hp ended
    exact ⟨rfl, rfl⟩
  | cons x h ih =>
    obtain ⟨first, move, rest⟩ := way.head
    cases h' with
    | nil =>
      obtain rfl := other.run.eq_of_nil
      rw [Cache.move_turn_of_over hq ended'] at move
      cases move
    | cons y h' =>
      obtain ⟨first', move', rest'⟩ := other.head
      have after : x.after = y.after := Option.some.inj (move.symm.trans move')
      obtain ⟨rfl, rfl⟩ := ih rest (after ▸ rest')
      exact ⟨by rw [first, first', after], rfl⟩

end Way

end StoreAccess
