import StoreAccess.Proofs.Cache.Moves

/-! Runs of a cache: any number of calls, their steps in any order, any answers of the client. A run keeps
    its history; what was dialed, put in, removed, closed and lent is read off the history. -/

namespace StoreAccess

/-- One move of a run, with the cache before and after it. -/
structure Transition (κ α : Type) [BackendConfig κ] where
  before : Cache κ α
  move : Move κ α
  after : Cache κ α

namespace Move

/-- The call that a move begins. -/
def call? {κ α : Type} : Move κ α → Option (Call κ)
  | .start call => some call
  | _ => none

/-- The task that a move gives up. -/
def dropped? {κ α : Type} : Move κ α → Option Nat
  | .drop i => some i
  | _ => none

end Move

namespace Cache

variable {κ α : Type} [BackendConfig κ]

/-- The leases that the entries would be lent under. -/
def cached (c : Cache κ α) : List Lease := c.entries.map Entry.lease

/-- The request that a task waits for. -/
def request? (c : Cache κ α) (i : Nat) : Option (Request κ) := (c.phase? i).bind Phase.request?

/-- The lease that a task obtains by its next step. -/
def lends? (c : Cache κ α) (i : Nat) : Option Lease :=
  match c.tasks[i]? with
  | some ⟨.looking target _, some _⟩ | some ⟨.rechecking target _, some _⟩ =>
    (c.entry? target.fingerprint).map Entry.lease
  | some ⟨.inserting e _, some _⟩ => some e.lease
  | _ => none

end Cache

namespace Transition

variable {κ α : Type} [BackendConfig κ]

/-- The entry for a handle that was dialed, and the task that dialed it. -/
def dialing? (x : Transition κ α) : Option (Nat × Entry κ) :=
  match x.move with
  | .reply i .success =>
    match x.before.phase? i, x.after.phase? i with
    | some (.dialing _ _), some (.inserting e _) => some (i, e)
    | _, _ => none
  | _ => none

def dialed (x : Transition κ α) : List Lease := (x.dialing?.map fun y => y.2.lease).toList

/-- What was put in. -/
def inserted (x : Transition κ α) : List Lease := x.after.cached.filter fun l => l ∉ x.before.cached

/-- What was taken out. -/
def removed (x : Transition κ α) : List Lease := x.before.cached.filter fun l => l ∉ x.after.cached

/-- The handle whose closing came to an end. -/
def closed (x : Transition κ α) : List Lease :=
  match x.move with
  | .reply i _ =>
    match x.before.phase? i with
    | some (.closing e _) => [e.lease]
    | _ => []
  | _ => []

/-- What a call that was given up had in hand. -/
def lost {β : Type} (f : Phase κ α → List β) (x : Transition κ α) : List β :=
  (x.move.dropped?.bind x.before.phase?).elim [] f

/-- The lease that a task obtained. -/
def lent? (x : Transition κ α) : Option Lease :=
  match x.move with
  | .step i => x.before.lends? i
  | _ => none

end Transition

abbrev History (κ α : Type) [BackendConfig κ] : Type := List (Transition κ α)

namespace History

variable {κ α : Type} [BackendConfig κ]

/-- The calls, each at the number of its task. -/
def calls (h : History κ α) : List (Call κ) := h.filterMap fun x => x.move.call?

/-- The dialed handles, each with the task that dialed it. -/
def dialings (h : History κ α) : List (Nat × Entry κ) := h.filterMap Transition.dialing?

def dialed (h : History κ α) : List Lease := h.flatMap Transition.dialed

def inserted (h : History κ α) : List Lease := h.flatMap Transition.inserted

def removed (h : History κ α) : List Lease := h.flatMap Transition.removed

def closed (h : History κ α) : List Lease := h.flatMap Transition.closed

/-- What the calls that were given up had in hand. -/
def lost {β : Type} (f : Phase κ α → List β) (h : History κ α) : List β := h.flatMap (Transition.lost f)

variable (h : History κ α) (x : Transition κ α)

theorem dialed_snoc : dialed (h ++ [x]) = dialed h ++ x.dialed := by simp [dialed]

theorem inserted_snoc : inserted (h ++ [x]) = inserted h ++ x.inserted := by simp [inserted]

theorem removed_snoc : removed (h ++ [x]) = removed h ++ x.removed := by simp [removed]

theorem closed_snoc : closed (h ++ [x]) = closed h ++ x.closed := by simp [closed]

theorem lost_snoc {β : Type} (f : Phase κ α → List β) : lost f (h ++ [x]) = lost f h ++ x.lost f := by
  simp [lost]

theorem calls_append (h₁ h₂ : History κ α) : calls (h₁ ++ h₂) = calls h₁ ++ calls h₂ :=
  List.filterMap_append ..

/-- No call is given up. -/
def Undropped (h : History κ α) : Prop := ∀ x ∈ h, x.move.dropped? = none

end History

/-- The history leads from one cache to another. -/
inductive Run {κ α : Type} [BackendConfig κ] (c : Cache κ α) : History κ α → Cache κ α → Prop
  | nil : Run c [] c
  | snoc {h : History κ α} {d e : Cache κ α} {m : Move κ α} (run : Run c h d) (move : d.move m = some e) :
      Run c (h ++ [⟨d, m, e⟩]) e

namespace Run

variable {κ α : Type} [BackendConfig κ] {c d : Cache κ α} {h : History κ α}

/-- What every move keeps, a run keeps. -/
theorem keeps {P : Cache κ α → Prop} (step : ∀ c m d, P c → c.move m = some d → P d) (run : Run c h d)
    (start : P c) : P d := by
  induction run with
  | nil => exact start
  | snoc _ move ih => exact step _ _ _ ih move

theorem split {h₁ h₂ : History κ α} {x : Transition κ α} (run : Run c (h₁ ++ x :: h₂) d) :
    Run c h₁ x.before ∧ x.before.move x.move = some x.after ∧ Run x.after h₂ d := by
  generalize hh : h₁ ++ x :: h₂ = h at run
  induction run generalizing h₂ with
  | nil => simp at hh
  | @snoc h d e m run move ih =>
    rcases List.eq_nil_or_concat h₂ with rfl | ⟨h₃, y, rfl⟩
    · obtain ⟨rfl, hx⟩ := List.append_inj' hh rfl
      cases hx
      exact ⟨run, move, .nil⟩
    · rw [List.concat_eq_append, ← List.cons_append, ← List.append_assoc] at hh
      obtain ⟨hrest, hy⟩ := List.append_inj' hh rfl
      cases hy
      obtain ⟨first, middle, last⟩ := ih hrest
      exact ⟨first, middle, by rw [List.concat_eq_append]; exact last.snoc move⟩

theorem cons {e : Cache κ α} {m : Move κ α} (move : c.move m = some d) (run : Run d h e) :
    Run c (⟨c, m, d⟩ :: h) e := by
  induction run with
  | nil => exact Run.nil.snoc move
  | snoc _ move' ih => exact ih.snoc move'

/-- The run up to one of its transitions. -/
theorem upTo {x : Transition κ α} (run : Run c h d) (hx : x ∈ h) :
    ∃ h₁ h₂, h = h₁ ++ x :: h₂ ∧ Run c h₁ x.before ∧ x.before.move x.move = some x.after ∧
      Run x.after h₂ d := by
  obtain ⟨h₁, h₂, rfl⟩ := List.append_of_mem hx
  exact ⟨h₁, h₂, rfl, run.split⟩

end Run

theorem Cache.ofOptions_eq_ok {κ α : Type} [BackendConfig κ] {backend : BackendKind}
    {options : CacheOptions} {order : EntryOrder} {c : Cache κ α} (h : Cache.ofOptions backend options order = .ok c) :
    c = ⟨backend, options, order, [], [], 0, .zero, [], []⟩ := by
  unfold Cache.ofOptions at h
  cases hc : options.check <;> rw [hc] at h <;> cases h
  rfl

/-! ### Replays -/

/-- The given moves one after the other, if they are possible. -/
def Cache.replay {κ α : Type} [BackendConfig κ] (c : Cache κ α) : List (Move κ α) →
    Option (History κ α × Cache κ α)
  | [] => some ([], c)
  | m :: ms => do
    let d ← c.move m
    let (h, e) ← d.replay ms
    some (⟨c, m, d⟩ :: h, e)

theorem Run.of_replay {κ α : Type} [BackendConfig κ] {ms : List (Move κ α)} {c d : Cache κ α}
    {h : History κ α} (hms : c.replay ms = some (h, d)) : Run c h d := by
  induction ms generalizing c h with
  | nil =>
    cases hms
    exact .nil
  | cons m ms ih =>
    simp only [Cache.replay, Option.bind_eq_bind, Option.bind_eq_some_iff] at hms
    obtain ⟨c', move, ⟨h', d'⟩, hrest, hms⟩ := hms
    cases hms
    exact (ih hrest).cons move

/-- A configuration that shows its fingerprint, for replays. -/
structure Site where
  name : UInt8
  pool : PoolSettings

namespace Site

instance : BackendConfig Site where
  kind _ := .keyValue
  fingerprint s := ⟨[s.name]⟩
  pool := pool

/-- A new cache of sites. -/
def cache : Cache Site Nat := ⟨.keyValue, .default, .ofInsertion, [], [], 0, .zero, [], []⟩

theorem new : Cache.ofOptions .keyValue .default .ofInsertion = .ok cache := rfl

/-- What becomes of a new cache by these moves, each of which has to be possible. -/
def replay (ms : List (Move Site Nat)) : History Site Nat × Cache Site Nat :=
  (cache.replay ms).getD ([], cache)

theorem run (ms : List (Move Site Nat)) (possible : (cache.replay ms).isSome = true) :
    Run cache (replay ms).1 (replay ms).2 := by
  obtain ⟨⟨h, d⟩, hms⟩ := Option.isSome_iff_exists.mp possible
  simp only [replay, hms, Option.getD_some]
  exact .of_replay hms

/-- Two callers of one site, with different pools, miss it at once: the first dials it, and the second
    waits at the gate. -/
def shared : List (Move Site Nat) :=
  [.start (.acquire ⟨7, .default⟩), .start (.acquire ⟨7, ⟨2, 1, .ofSeconds 60⟩⟩),
   .step 0, .step 0, .step 1, .step 1, .step 0, .step 0, .step 1, .step 1, .step 0, .step 0,
   .reply 0 .success, .step 0, .step 0, .step 1, .step 1]

/-- A third caller then invalidates the site. -/
def evicted : List (Move Site Nat) := shared ++ [.start (.invalidate ⟨[7]⟩), .step 2, .step 2]

/-- Its handle is closed, and a fourth caller dials the site again. -/
def redialed : List (Move Site Nat) :=
  evicted ++ [.reply 2 .success, .start (.acquire ⟨7, .default⟩), .step 3, .step 3, .step 3, .step 3,
    .step 3, .step 3, .reply 3 .success, .step 3, .step 3]

end Site

end StoreAccess
