import StoreAccess.Proofs.Cache.Runs
import StoreAccess.Proofs.Secrecy.Likeness

/-! Caches that are alike stay alike: whatever is possible on the one is possible on the other, what they tell their
    client and the log is alike, and so are the answers of their calls. A cache looks into a configuration only to
    see its kind, its pool and its check, and at fingerprints only to see which are the same. -/

namespace StoreAccess

variable {κ α : Type} [BackendConfig κ] {L : Likeness κ}

variable (L) in
structure Cache.Alike (c c' : Cache κ α) : Prop where
  backend : c.backend = c'.backend
  options : c.options = c'.options
  order : c.order = c'.order
  entries : List.Forall₂ (Entry.Alike L) c.entries c'.entries
  gates : List.Forall₂ (fun p p' => L.Print p.1 p'.1 ∧ p.2 = p'.2) c.gates c'.gates
  generation : c.generation = c'.generation
  stats : c.stats = c'.stats
  tasks : List.Forall₂ (Task.Alike L) c.tasks c'.tasks
  events : List.Forall₂ (CacheEvent.Alike L) c.events c'.events

/-- Lists with members that correspond to each other are arranged alike. -/
theorem forall₂_arrange {β γ : Type} {R : β → γ → Prop} {l : List β} {m : List γ} (places : List Nat)
    (members : List.Forall₂ R l m) : List.Forall₂ R (arrange places l) (arrange places m) := by
  unfold arrange
  rw [members.length_eq]
  split
  · refine List.rel_filterMap (R := Eq) (fun i j same => ?_) (List.forall₂_same.mpr fun _ _ => rfl)
    exact same ▸ members.getElem? i
  · exact members

namespace Cache

theorem alike_of_new {backend : BackendKind} {options : CacheOptions} {order : EntryOrder} {c : Cache κ α}
    (new : ofOptions backend options order = .ok c) : c.Alike L c := by
  obtain rfl := ofOptions_eq_ok new
  exact ⟨rfl, rfl, rfl, .nil, .nil, rfl, rfl, .nil, .nil⟩

end Cache

namespace Cache.Alike

variable {c c' : Cache κ α} (alike : c.Alike L c') (i : Nat)
include alike

/-! ### What a cache holds -/

theorem entry? {f f' : Fingerprint} (print : L.Print f f') :
    Option.Rel (Entry.Alike L) (c.entry? f) (c'.entry? f') :=
  alike.entries.find? fun entry => L.beq_eq entry.print print

theorem found : List.Forall₂ (Entry.Alike L) (c.found i) (c'.found i) := by
  rw [Cache.found, Cache.found, alike.order]
  exact forall₂_arrange _ alike.entries

theorem erase {f f' : Fingerprint} (print : L.Print f f') : (c.erase f).Alike L (c'.erase f') :=
  { alike with entries := alike.entries.filter fun entry => congrArg not (L.beq_eq entry.print print) }

theorem put {e e' : Entry κ} (entry : e.Alike L e') : (c.put e).Alike L (c'.put e') :=
  { alike with entries := (alike.erase entry.print).entries.snoc entry }

theorem first?_eq {f f' : Fingerprint} (print : L.Print f f') : c.first? f = c'.first? f' :=
  (alike.gates.find? fun place => L.beq_eq place.1 print).map_eq fun place => place.2

theorem join {f f' : Fingerprint} (print : L.Print f f') : (c.join f i).Alike L (c'.join f' i) :=
  { alike with gates := alike.gates.snoc ⟨print, rfl⟩ }

theorem leave : (c.leave i).Alike L (c'.leave i) :=
  { alike with gates := alike.gates.filter fun place => by rw [place.2] }

theorem tally (t : Tally) : (c.tally t).Alike L (c'.tally t) :=
  { alike with stats := by rw [Cache.tally, Cache.tally, alike.stats] }

theorem emit {e e' : CacheEvent κ} (event : e.Alike L e') : (c.emit e).Alike L (c'.emit e') :=
  { alike with events := alike.events.snoc event }

theorem log {e e' : LogEvent} (event : e.Alike L e') : (c.log e).Alike L (c'.log e') :=
  alike.emit (.log event)

/-! ### From phase to phase -/

theorem goto {p p' : Phase κ α} (phase : p.Alike L p') : (c.goto i p).Alike L (c'.goto i p') := by
  have entered : Cache.Alike L { c with tasks := c.tasks.set i ⟨p, none⟩ }
      { c' with tasks := c'.tasks.set i ⟨p', none⟩ } :=
    { alike with tasks := alike.tasks.set i ⟨phase, rfl⟩ }
  have asked := phase.request?
  unfold Cache.goto
  generalize p.request? = r, p'.request? = r' at asked ⊢
  cases asked with
  | none => exact entered
  | some request => exact entered.emit (.request i request)

theorem finish {a a' : CallAnswer α} (answer : a.Alike L a') : (c.finish i a).Alike L (c'.finish i a') :=
  alike.goto i (.finished answer)

/-- An answer that lends no handle. -/
theorem finishSame (a : CallAnswer α) (unlent : ∀ l, a ≠ .leased (.ok l)) :
    (c.finish i a).Alike L (c'.finish i a) :=
  alike.finish i (.same a unlent)

theorem probeNext {rest rest' : List (Entry κ)} (entries : List.Forall₂ (Entry.Alike L) rest rest')
    (replaced : Nat) : (c.probeNext i rest replaced).Alike L (c'.probeNext i rest' replaced) := by
  cases entries with
  | nil => exact alike.finishSame i _ (by simp)
  | cons entry entries => exact alike.goto i (.pinging entry entries replaced)

theorem retire {e e' : Entry κ} {why why' : Aftermath κ} (entry : e.Alike L e') (aftermath : why.Alike L why') :
    (c.retire i e why).Alike L (c'.retire i e' why') := by
  have event : LogEvent.Alike L (Notice.invalidating e.target.kind e.lease)
      (Notice.invalidating e'.target.kind e'.lease) := by
    rw [entry.target.kind]
    exact LogEvent.alike_of_lease entry.lease _ _ [_] (by simp)
  exact ((alike.tally .invalidation).log event).goto i (.closing entry aftermath)

theorem clearNext {rest rest' : List (Entry κ)} (entries : List.Forall₂ (Entry.Alike L) rest rest') :
    (c.clearNext i rest).Alike L (c'.clearNext i rest') := by
  cases entries with
  | nil => exact alike.finishSame i _ (by simp)
  | cons entry entries => exact alike.retire i entry (.clear entries)

theorem settle {t t' : Target κ} (target : t.Alike L t') (again : Bool) (e : Error) :
    (c.settle i t again e).Alike L (c'.settle i t' again e) := by
  unfold Cache.settle
  split
  · rw [target.kind]
    exact ((alike.tally .retry).log (LogEvent.alike_of_plain (by simp [Notice.retrying]))).goto i
      (.looking target (.attempt true))
  · exact alike.finishSame i _ (by simp)

theorem obtained {t t' : Target κ} {why why' : Purpose κ} {l l' : Lease} (target : t.Alike L t')
    (purpose : why.Alike L why') (lease : l.Alike L l') :
    (c.obtained i t why l).Alike L (c'.obtained i t' why' l') := by
  cases purpose with
  | caller => exact alike.finish i (.lent lease)
  | attempt again => exact alike.goto i (.operating target again lease)
  | replace entries replaced => exact alike.probeNext i entries (replaced + 1)

theorem refused {t t' : Target κ} {why why' : Purpose κ} (target : t.Alike L t') (purpose : why.Alike L why')
    (e : Error) : (c.refused i t why e).Alike L (c'.refused i t' why' e) := by
  cases purpose with
  | caller => exact alike.finishSame i _ (by simp)
  | attempt again => exact alike.settle i target again e
  | replace entries replaced =>
    exact (alike.log (LogEvent.alike_of_print target.print _ _ [] [_] (by simp) (by simp))).probeNext i entries replaced

theorem removed {why why' : Aftermath κ} (aftermath : why.Alike L why') (found : Bool) :
    (c.removed i why found).Alike L (c'.removed i why' found) := by
  cases aftermath with
  | caller => exact alike.finishSame i _ (by simp)
  | attempt target again e => exact alike.settle i target again e
  | probe target entries replaced =>
    cases found
    · exact alike.probeNext i entries replaced
    · exact alike.goto i (.looking target (.replace entries replaced))
  | clear entries => exact alike.clearNext i entries

/-! ### Steps -/

theorem work {p p' : Phase κ α} (phase : p.Alike L p') :
    Option.Rel (Cache.Alike L) (c.work i p) (c'.work i p') := by
  cases phase with
  | looking target purpose =>
    have found := alike.entry? target.print
    simp only [Cache.work]
    generalize c.entry? _ = e, c'.entry? _ = e' at found ⊢
    cases found with
    | none => exact .some ((alike.tally .miss).goto i (.queueing target purpose))
    | some entry =>
      exact .some (((alike.tally .hit).log (LogEvent.alike_of_lease entry.lease _ _ [] (by simp))).obtained i target
        purpose entry.lease)
  | queueing target purpose => exact .some ((alike.join i target.print).goto i (.rechecking target purpose))
  | @rechecking t t' _ _ target purpose =>
    have found := alike.entry? target.print
    simp only [Cache.work, target.check, target.pool, alike.backend]
    generalize c.entry? _ = e, c'.entry? _ = e' at found ⊢
    cases found with
    | none =>
      cases t'.check with
      | error e => exact .some ((alike.leave i).refused i target purpose e)
      | ok =>
        exact .some ((alike.log (LogEvent.alike_of_print target.print _ _ [_] [_, _, _] (by simp) (by simp))).goto i
          (.dialing target purpose))
    | some entry =>
      exact .some (((alike.log (LogEvent.alike_of_print target.print _ _ [] [] (by simp) (by simp))).leave i).obtained i
        target purpose entry.lease)
  | inserting entry purpose =>
    simp only [Cache.work, entry.target.kind]
    exact .some ((((alike.put entry).log (LogEvent.alike_of_lease entry.lease _ _ [_] (by simp))).leave i).obtained i
      entry.target purpose entry.lease)
  | removing print =>
    have found := alike.entry? print
    simp only [Cache.work]
    generalize c.entry? _ = e, c'.entry? _ = e' at found ⊢
    cases found with
    | none => exact .some (alike.finishSame i _ (by simp))
    | some entry => exact .some ((alike.erase print).retire i entry .caller)
  | @removingLease l l' _ _ lease aftermath =>
    have found := alike.entry? lease.print
    have replaced : LogEvent.Alike L (Notice.replacedAlready l) (Notice.replacedAlready l') :=
      LogEvent.alike_of_lease lease _ _ [] (by simp)
    have gone := (alike.log replaced).removed i aftermath false
    simp only [Cache.work]
    generalize c.entry? _ = e, c'.entry? _ = e' at found ⊢
    cases found with
    | none => exact .some gone
    | some entry =>
      dsimp only
      rw [← entry.generation, ← lease.generation]
      split
      · exact .some ((alike.erase lease.print).retire i entry aftermath)
      · exact .some gone
  | draining =>
    have emptied : Cache.Alike L { c with entries := [] } { c' with entries := [] } := { alike with entries := .nil }
    exact .some (emptied.clearNext i (alike.found i))
  | noting => exact .some (alike.probeNext i (alike.found i) 0)
  | counting =>
    simp only [Cache.work, alike.entries.length_eq]
    exact .some (alike.finishSame i _ (by simp))
  | containing print =>
    have found := alike.entry? print
    simp only [Cache.work]
    generalize c.entry? _ = e, c'.entry? _ = e' at found ⊢
    cases found <;> exact .some (alike.finishSame i _ (by simp))
  | dialing | operating | closing | pinging | finished | dropped => exact .none

theorem lockFree_eq (l : Lock) : c.lockFree l = c'.lockFree l :=
  alike.tasks.all_eq fun task => by rw [task.lock]

theorem passed_eq {p p' : Phase κ α} (phase : p.Alike L p') : c.passed i p = c'.passed i p' := by
  have gate := phase.gate?
  unfold Cache.passed
  generalize p.gate? = f, p'.gate? = f' at gate ⊢
  cases gate with
  | none => rfl
  | some print => rw [Option.all_some, Option.all_some, alike.first?_eq print]

theorem step : Option.Rel (Cache.Alike L) (c.step i) (c'.step i) := by
  refine (alike.tasks.getElem? i).bind ?_
  rintro ⟨p, l⟩ ⟨p', _⟩ ⟨phase, rfl⟩
  simp only [phase.lock?_eq, alike.passed_eq i phase]
  cases p'.lock? with
  | none => exact .none
  | some lock =>
    cases l with
    | some held => exact alike.work i phase
    | none =>
      simp only [alike.lockFree_eq lock]
      split
      · exact .some { alike with tasks := alike.tasks.set i ⟨phase, rfl⟩ }
      · exact .none

/-! ### Replies -/

theorem asDialError_eq (e : Error) : c.asDialError e = c'.asDialError e := by
  cases e <;> simp only [Cache.asDialError, alike.backend]

theorem dialFailed {t t' : Target κ} {why why' : Purpose κ} (target : t.Alike L t') (purpose : why.Alike L why')
    (e : Error) : (c.dialFailed i t why e).Alike L (c'.dialFailed i t' why' e) := by
  simp only [Cache.dialFailed, alike.asDialError_eq, alike.backend]
  exact (((alike.tally .dialFailure).log
    (LogEvent.alike_of_print target.print _ _ [_] [_] (by simp) (by simp))).leave i).refused i target purpose _

theorem operationFailed {t t' : Target κ} {l l' : Lease} (target : t.Alike L t') (again : Bool)
    (lease : l.Alike L l') (e : Error) :
    (c.operationFailed i t again l e).Alike L (c'.operationFailed i t' again l' e) := by
  unfold Cache.operationFailed
  split
  · exact alike.goto i (.removingLease lease (.attempt target again e))
  · exact alike.finishSame i _ (by simp)

theorem pingFailed {e e' : Entry κ} {rest rest' : List (Entry κ)} (entry : e.Alike L e')
    (entries : List.Forall₂ (Entry.Alike L) rest rest') (replaced : Nat) :
    (c.pingFailed i e rest replaced).Alike L (c'.pingFailed i e' rest' replaced) :=
  ((alike.tally .probeFailure).log (LogEvent.alike_of_print entry.print _ _ [] [] (by simp) (by simp))).goto i
    (.removingLease entry.lease (.probe entry.target entries replaced))

theorem dialed {t t' : Target κ} {why why' : Purpose κ} (target : t.Alike L t') (purpose : why.Alike L why') :
    (c.handleMade.goto i (.inserting (c.newEntry t) why)).Alike L
      (c'.handleMade.goto i (.inserting (c'.newEntry t') why')) := by
  have made : c.handleMade.Alike L c'.handleMade :=
    { alike.tally .dial with generation := congrArg (· + 1) alike.generation }
  have entry : (c.newEntry t).Alike L (c'.newEntry t') :=
    ⟨target, congrArg (·.dials + 1) alike.stats, congrArg (· + 1) alike.generation⟩
  exact made.goto i (.inserting entry purpose)

theorem reply (r : Reply α) : Option.Rel (Cache.Alike L) (c.reply i r) (c'.reply i r) := by
  refine (alike.tasks.getElem? i).bind ?_
  rintro ⟨p, l⟩ ⟨p', l'⟩ ⟨phase, -⟩
  dsimp only at phase
  cases phase with
  | dialing target purpose =>
    cases r with
    | success => exact .some (alike.dialed i target purpose)
    | value => exact .none
    | failure e => exact .some (alike.dialFailed i target purpose e)
    | overdue =>
      simp only [Cache.dialOverdue, alike.backend, alike.options]
      exact .some (alike.dialFailed i target purpose _)
  | operating target again lease =>
    cases r with
    | success => exact .none
    | value => exact .some (alike.finishSame i _ (by simp))
    | failure e => exact .some (alike.operationFailed i target again lease e)
    | overdue =>
      simp only [Cache.operationOverdue, alike.options]
      exact .some (alike.operationFailed i target again lease _)
  | pinging entry entries replaced =>
    cases r with
    | success => exact .some (alike.probeNext i entries replaced)
    | value => exact .none
    | failure | overdue => exact .some (alike.pingFailed i entry entries replaced)
  | closing entry aftermath =>
    cases r with
    | success => exact .some ((alike.tally .close).removed i aftermath true)
    | failure e =>
      exact .some (((alike.log (LogEvent.alike_of_print entry.print _ _ [] [_] (by simp) (by simp))).tally
        .close).removed i aftermath true)
    | value | overdue => exact .none
  | _ => cases r <;> exact .none

/-! ### Moves -/

theorem start {call call' : Call κ} (calls : call.Alike L call') : (c.start call).Alike L (c'.start call') :=
  { alike with tasks := alike.tasks.snoc ⟨Phase.alike_ofCall calls, rfl⟩ }

theorem drop : (c.drop i).Alike L (c'.drop i) := (alike.leave i).goto i .dropped

theorem phase? : Option.Rel (Phase.Alike L) (c.phase? i) (c'.phase? i) :=
  (alike.tasks.getElem? i).map Task.Alike.phase

theorem answer? : Option.Rel (CallAnswer.Alike L) (c.answer? i) (c'.answer? i) :=
  (alike.tasks.getElem? i).bind fun task => task.phase.answer?

theorem move {m m' : Move κ α} (moves : m.Alike L m') : Option.Rel (Cache.Alike L) (c.move m) (c'.move m') := by
  cases moves with
  | start calls => exact .some (alike.start calls)
  | step i => exact alike.step i
  | reply i r => exact alike.reply i r
  | drop i =>
    refine (alike.phase? i).bind fun phase => ?_
    rw [phase.isOver_eq]
    split
    · exact .none
    · exact .some (alike.drop i)

end Cache.Alike

/-! ### Runs -/

variable (L) in
structure Transition.Alike (x x' : Transition κ α) : Prop where
  before : x.before.Alike L x'.before
  move : x.move.Alike L x'.move
  after : x.after.Alike L x'.after

/-- Moves that are alike lead from caches alike to caches alike, by the same way, or are impossible in both runs. -/
theorem Cache.Alike.replay {c c' : Cache κ α} {ms ms' : List (Move κ α)} (alike : c.Alike L c')
    (moves : List.Forall₂ (Move.Alike L) ms ms') :
    Option.Rel (fun x x' => List.Forall₂ (Transition.Alike L) x.1 x'.1 ∧ x.2.Alike L x'.2) (c.replay ms)
      (c'.replay ms') := by
  induction moves generalizing c c' with
  | nil => exact .some ⟨.nil, alike⟩
  | cons first _ ih =>
    refine (alike.move first).bind fun after => (ih after).bind fun rest => ?_
    exact .some ⟨.cons ⟨alike, first, after⟩ rest.1, rest.2⟩

end StoreAccess
