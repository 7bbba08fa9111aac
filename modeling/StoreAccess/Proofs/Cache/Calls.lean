import StoreAccess.Proofs.Cache.Gates
import StoreAccess.Proofs.Cache.Runs

/-! What the task of a call can be doing: a call stays within its own phases, and ends with an answer of
    its own form. The outcome of an acquisition comes from the one step that obtains the lease, or from
    one that is refused it. -/

namespace StoreAccess

/-! ### The phases of a call -/

namespace Call

variable {κ α : Type} [BackendConfig κ]

/-- The call acquires a lease of the target for this purpose. -/
def Acquires (call : Call κ) (target : Target κ) : Purpose κ → Prop
  | .caller => ∃ config, call = .acquire config ∧ target = .ofConfig config
  | .attempt _ => ∃ config, call = .withConnection config ∧ target = .ofConfig config
  | .replace .. => call = .probeOnce

/-- The call removes an entry, closes its handle and goes on so. -/
def Removes (call : Call κ) : Aftermath κ → Prop
  | .caller => (∃ f, call = .invalidate f) ∨ ∃ l, call = .invalidateLease l
  | .attempt target _ _ => ∃ config, call = .withConnection config ∧ target = .ofConfig config
  | .probe .. => call = .probeOnce
  | .clear _ => call = .clear

/-- The call removes the entry of a lease and goes on so. -/
def Evicts (call : Call κ) (l : Lease) : Aftermath κ → Prop
  | .caller => call = .invalidateLease l
  | .clear _ => False
  | why => call.Removes why

def Answers (call : Call κ) : CallAnswer α → Prop
  | .leased (.ok l) => ∃ config, call = .acquire config ∧ l.fingerprint = BackendConfig.fingerprint config
  | .leased (.error _) => ∃ config, call = .acquire config
  | .removed _ => (∃ f, call = .invalidate f) ∨ ∃ l, call = .invalidateLease l
  | .ran _ => ∃ config, call = .withConnection config
  | .replaced _ => call = .probeOnce
  | .cleared => call = .clear
  | .counted _ => call = .length
  | .contained _ => ∃ f, call = .contains f

/-- The phases in which a call can be. -/
def Admits (call : Call κ) : Phase κ α → Prop
  | .looking target why | .queueing target why | .rechecking target why | .dialing target why =>
    call.Acquires target why
  | .inserting e why => call.Acquires e.target why
  | .operating target again l => call.Acquires target (.attempt again) ∧ l.fingerprint = target.fingerprint
  | .removing f => call = .invalidate f
  | .removingLease l why => call.Evicts l why
  | .draining => call = .clear
  | .closing _ why => call.Removes why
  | .noting | .pinging .. => call = .probeOnce
  | .counting => call = .length
  | .containing f => call = .contains f
  | .finished a => call.Answers a
  | .dropped => True

theorem Evicts.removes {call : Call κ} {l : Lease} {why : Aftermath κ} (h : call.Evicts l why) :
    call.Removes why := by
  cases why with
  | caller => exact Or.inr ⟨l, h⟩
  | attempt | probe => exact h
  | clear => cases h

/-- An acquisition is for the target of its own configuration. -/
theorem Acquires.target_eq {config : κ} {target : Target κ} {why : Purpose κ}
    (acquires : (Call.acquire config).Acquires target why) : target = .ofConfig config := by
  cases why with
  | caller =>
    obtain ⟨config', same, rfl⟩ := acquires
    cases same
    rfl
  | attempt =>
    obtain ⟨_, other, -⟩ := acquires
    cases other
  | replace => cases acquires

/-- An acquisition is answered with a lease of its own fingerprint, or with an error. -/
theorem Answers.leased {config : κ} {a : CallAnswer α} (h : (Call.acquire config).Answers a) :
    ∃ o, a = .leased o ∧ ∀ l, o = .ok l → l.fingerprint = BackendConfig.fingerprint config := by
  cases a with
  | leased o =>
    refine ⟨o, rfl, ?_⟩
    rintro l rfl
    obtain ⟨config', hconfig, hl⟩ := h
    cases hconfig
    exact hl
  | removed | contained => simp [Answers] at h
  | ran => simp [Answers] at h
  | replaced | cleared | counted => cases h

theorem Answers.ran {config : κ} {a : CallAnswer α} (h : (Call.withConnection config).Answers a) :
    ∃ r, a = .ran r := by
  cases a with
  | ran r => exact ⟨r, rfl⟩
  | leased o => cases o <;> simp [Answers] at h
  | removed | contained => simp [Answers] at h
  | replaced | cleared | counted => cases h

theorem admits_ofCall (call : Call κ) : call.Admits (.ofCall call : Phase κ α) := by
  cases call with
  | acquire config | withConnection config => exact ⟨config, rfl, rfl⟩
  | _ => rfl

variable {call : Call κ}

theorem admits_toPing (h : call = .probeOnce) (rest : List (Entry κ)) (replaced : Nat) :
    call.Admits (.toPing rest replaced : Phase κ α) := by
  cases rest <;> exact h

theorem admits_toClose (h : call = .clear) (rest : List (Entry κ)) :
    call.Admits (.toClose rest : Phase κ α) := by
  cases rest <;> exact h

theorem admits_afterFailure {target : Target κ} {again : Bool}
    (h : call.Acquires target (.attempt again)) (e : Error) :
    call.Admits (.afterFailure target again e : Phase κ α) := by
  obtain ⟨config, hcall, htarget⟩ := h
  unfold Phase.afterFailure
  split
  · exact ⟨config, hcall, htarget⟩
  · exact ⟨config, hcall⟩

theorem admits_afterLease {target : Target κ} {why : Purpose κ} {l : Lease}
    (h : call.Acquires target why) (hl : l.fingerprint = target.fingerprint) :
    call.Admits (.afterLease target why l : Phase κ α) := by
  cases why with
  | caller =>
    obtain ⟨config, hcall, rfl⟩ := h
    exact ⟨config, hcall, hl⟩
  | attempt => exact ⟨h, hl⟩
  | replace rest replaced => exact admits_toPing h rest _

theorem admits_afterRefusal {target : Target κ} {why : Purpose κ} (h : call.Acquires target why)
    (e : Error) : call.Admits (.afterRefusal target why e : Phase κ α) := by
  cases why with
  | caller =>
    obtain ⟨config, hcall, -⟩ := h
    exact ⟨config, hcall⟩
  | attempt => exact admits_afterFailure h e
  | replace rest replaced => exact admits_toPing h rest _

theorem admits_afterRemoval {why : Aftermath κ} (h : call.Removes why) (found : Bool) :
    call.Admits (.afterRemoval why found : Phase κ α) := by
  cases why with
  | caller => exact h
  | attempt => exact admits_afterFailure h _
  | probe target rest replaced =>
    cases found
    · exact admits_toPing h rest replaced
    · exact h
  | clear rest => exact admits_toClose h rest

theorem admits_afterOperation {target : Target κ} {again : Bool} {l : Lease}
    (h : call.Acquires target (.attempt again)) (e : Error) :
    call.Admits (.afterOperation target again l e : Phase κ α) := by
  unfold Phase.afterOperation
  split
  · exact h
  · obtain ⟨config, hcall, -⟩ := h
    exact ⟨config, hcall⟩

end Call

/-! ### Outcomes of acquisitions -/

/-- What came of the acquisition that the task is past. -/
def Phase.outcome? {κ α : Type} [BackendConfig κ] : Phase κ α → Option (Except Error Lease)
  | finished (.leased o) => some o
  | operating _ _ l => some (.ok l)
  | _ => none

namespace Phase

variable {κ α : Type} [BackendConfig κ]

theorem outcome?_ofCall (call : Call κ) : (ofCall call : Phase κ α).outcome? = none := by
  cases call <;> rfl

theorem outcome?_toClose (rest : List (Entry κ)) : (toClose rest : Phase κ α).outcome? = none := by
  cases rest <;> rfl

theorem outcome?_toPing (rest : List (Entry κ)) (replaced : Nat) :
    (toPing rest replaced : Phase κ α).outcome? = none := by
  cases rest <;> rfl

theorem outcome?_afterFailure (target : Target κ) (again : Bool) (e : Error) :
    (afterFailure target again e : Phase κ α).outcome? = none := by
  unfold afterFailure
  split <;> rfl

theorem outcome?_afterLease {target : Target κ} {why : Purpose κ} {l : Lease} {o : Except Error Lease}
    (h : (afterLease target why l : Phase κ α).outcome? = some o) : o = .ok l := by
  cases why with
  | caller | attempt =>
    cases h
    rfl
  | replace rest replaced =>
    simp only [afterLease, outcome?_toPing] at h
    cases h

theorem outcome?_afterRefusal {target : Target κ} {why : Purpose κ} {e : Error} {o : Except Error Lease}
    (h : (afterRefusal target why e : Phase κ α).outcome? = some o) : o = .error e := by
  cases why with
  | caller =>
    cases h
    rfl
  | attempt =>
    simp only [afterRefusal, outcome?_afterFailure] at h
    cases h
  | replace rest replaced =>
    simp only [afterRefusal, outcome?_toPing] at h
    cases h

theorem outcome?_afterRemoval (why : Aftermath κ) (found : Bool) :
    (afterRemoval why found : Phase κ α).outcome? = none := by
  cases why with
  | caller => rfl
  | attempt => exact outcome?_afterFailure _ _ _
  | probe target rest replaced =>
    cases found
    · exact outcome?_toPing _ _
    · rfl
  | clear rest => cases rest <;> rfl

theorem outcome?_afterOperation (target : Target κ) (again : Bool) (l : Lease) (e : Error) :
    (afterOperation target again l e : Phase κ α).outcome? = none := by
  unfold afterOperation
  split <;> rfl

end Phase

namespace Cache

variable {κ α : Type} [BackendConfig κ] {c c' d : Cache κ α} {i j : Nat} {m : Move κ α}

/-- The task is refused a lease with this error: the target fails its check, or the dial fails. -/
inductive Refuses (c : Cache κ α) (i : Nat) : Error → Move κ α → Prop
  | rejected {target : Target κ} {why : Purpose κ} {l : Lock} {e : Error}
      (task : c.tasks[i]? = some ⟨.rechecking target why, some l⟩) (check : target.check = .error e) :
      Refuses c i e (.step i)
  | undialed {target : Target κ} {why : Purpose κ} {l : Option Lock} {r : Reply α} {e : Error}
      (task : c.tasks[i]? = some ⟨.dialing target why, l⟩)
      (failed : r = .failure e ∨ r = .overdue ∧ e = c.dialOverdue) : Refuses c i (c.asDialError e) (.reply i r)

/-- Where the outcome of an acquisition comes from: it stood before, or the move obtains the lease, or the
    task is refused it. -/
theorem Does.outcome_cases (h : c.Does m d) {p : Phase κ α} {o : Except Error Lease}
    (hp : d.phase? j = some p) (ho : p.outcome? = some o) :
    c.phase? j = some p ∨ (∃ l, o = .ok l ∧ m = .step j ∧ c.lends? j = some l) ∨
      (∃ e, o = .error e ∧ c.Refuses j e m) := by
  -- A task whose new phase has no outcome is not the one in question.
  have pass : ∀ {c' : Cache κ α} {i : Nat} {q : Phase κ α}, c'.Enters i q d → c'.tasks = c.tasks →
      q.outcome? = none → c.phase? j = some p := fun enters ht hq => by
    rcases enters.phase_cases ht hp with ⟨-, rfl⟩ | ⟨-, hp⟩
    · rw [hq] at ho
      cases ho
    · exact hp
  have lend : ∀ {c' : Cache κ α} {i : Nat} {target : Target κ} {why : Purpose κ} {l : Lease},
      c'.Enters i (.afterLease target why l) d → c'.tasks = c.tasks → m = .step i → c.lends? i = some l →
      c.phase? j = some p ∨ (∃ l, o = .ok l ∧ m = .step j ∧ c.lends? j = some l) ∨
        (∃ e, o = .error e ∧ c.Refuses j e m) := fun enters ht hm hl => by
    rcases enters.phase_cases ht hp with ⟨rfl, rfl⟩ | ⟨-, hp⟩
    · exact Or.inr (Or.inl ⟨_, Phase.outcome?_afterLease ho, hm, hl⟩)
    · exact Or.inl hp
  cases h with
  | start =>
    rcases start_phase_cases hp with hp | ⟨-, rfl⟩
    · exact Or.inl hp
    · rw [Phase.outcome?_ofCall] at ho
      cases ho
  | lock task => exact Or.inl (lock_phase? task ▸ hp)
  | hit task entry enters => exact lend enters rfl rfl (by simp [lends?, task, entry])
  | share task entry enters => exact lend enters rfl rfl (by simp [lends?, task, entry])
  | insert task enters => exact lend enters rfl rfl (by simp [lends?, task])
  | reject task _ check enters =>
    rcases enters.phase_cases (c := c) rfl hp with ⟨rfl, rfl⟩ | ⟨-, hp⟩
    · exact Or.inr (Or.inr ⟨_, Phase.outcome?_afterRefusal ho, .rejected task check⟩)
    · exact Or.inl hp
  | undialed task reply enters =>
    rcases enters.phase_cases (c := c) rfl hp with ⟨rfl, rfl⟩ | ⟨-, hp⟩
    · exact Or.inr (Or.inr ⟨_, Phase.outcome?_afterRefusal ho, .undialed task reply⟩)
    · exact Or.inl hp
  | miss _ _ enters | dial _ _ _ enters | removeNone _ _ enters => exact Or.inl (pass enters rfl rfl)
  | queue _ enters | dialed _ enters | count _ enters | contain _ enters | operated _ enters =>
    exact Or.inl (pass enters rfl rfl)
  | remove _ _ enters | evict _ _ _ enters | unpinged _ _ enters => exact Or.inl (pass enters rfl rfl)
  | evictNone _ _ enters | closed _ _ enters => exact Or.inl (pass enters rfl (Phase.outcome?_afterRemoval _ _))
  | drain _ _ enters => exact Or.inl (pass enters rfl (Phase.outcome?_toClose _))
  | note _ _ enters | pinged _ enters => exact Or.inl (pass enters rfl (Phase.outcome?_toPing _ _))
  | failed _ _ enters => exact Or.inl (pass enters rfl (Phase.outcome?_afterOperation _ _ _ _))
  | drop _ _ enters => exact Or.inl (pass enters rfl rfl)

/-! ### Tasks and their calls -/

/-- Each task is one of the calls, in a phase of that call. -/
structure Admitted (calls : List (Call κ)) (c : Cache κ α) : Prop where
  length : c.tasks.length = calls.length
  admits : ∀ (i : Nat) (call : Call κ) (p : Phase κ α), calls[i]? = some call → c.phase? i = some p →
    call.Admits p

namespace Admitted

variable {calls : List (Call κ)}

theorem call_of_task (k : Admitted calls c) {t : Task κ α} (ht : c.tasks[i]? = some t) :
    ∃ call, calls[i]? = some call ∧ call.Admits t.phase := by
  obtain ⟨hi, -⟩ := List.getElem?_eq_some_iff.mp ht
  have hcall := List.getElem?_eq_getElem (k.length ▸ hi)
  exact ⟨_, hcall, k.admits i _ _ hcall (phase?_eq_some.mpr ⟨t.lock, ht⟩)⟩

theorem enter (k : Admitted calls c) {p q : Phase κ α} {l : Option Lock} (h : c'.Enters i q d)
    (htasks : c'.tasks = c.tasks) (ht : c.tasks[i]? = some ⟨p, l⟩)
    (hq : ∀ call : Call κ, call.Admits p → call.Admits q) : Admitted calls d where
  length := by rw [h.tasks, htasks, List.length_set, k.length]
  admits j call p' hcall hp' := by
    rcases h.phase_cases htasks hp' with ⟨rfl, rfl⟩ | ⟨-, hp'⟩
    · exact hq call (k.admits j call p hcall (phase?_eq_some.mpr ⟨l, ht⟩))
    · exact k.admits j call p' hcall hp'

theorem start (k : Admitted calls c) (call : Call κ) : Admitted (calls ++ [call]) (c.start call) where
  length := by simp [Cache.start, k.length]
  admits j call' p hcall hp := by
    rw [List.getElem?_append] at hcall
    rcases start_phase_cases hp with hp | ⟨rfl, rfl⟩
    · split at hcall
      · exact k.admits j call' p hcall hp
      · obtain ⟨l, ht⟩ := phase?_eq_some.mp hp
        obtain ⟨hj, -⟩ := List.getElem?_eq_some_iff.mp ht
        rw [k.length] at hj
        contradiction
    · simp only [k.length, Nat.lt_irrefl, ↓reduceIte, Nat.sub_self, List.getElem?_cons_zero,
        Option.some.injEq] at hcall
      exact hcall ▸ Call.admits_ofCall call

theorem lock (k : Admitted calls c) {p : Phase κ α} {l : Lock} (ht : c.tasks[i]? = some ⟨p, none⟩) :
    Admitted calls { c with tasks := c.tasks.set i ⟨p, some l⟩ } where
  length := by simp [k.length]
  admits j call p' hcall hp' := k.admits j call p' hcall (lock_phase? ht ▸ hp')

/-- A task stays within the phases of its call. -/
theorem move (k : Admitted calls c) (h : c.move m = some d) : Admitted (calls ++ m.call?.toList) d := by
  have lent : ∀ {f : Fingerprint} {e : Entry κ}, c.entry? f = some e → e.lease.fingerprint = f :=
    fun h => (entry?_eq_some h).2
  cases m with
  | start call =>
    cases h
    exact k.start call
  | drop i =>
    rw [show (Move.drop i : Move κ α).call?.toList = [] from rfl, List.append_nil]
    cases does_of_move h with
    | drop task _ enters => exact k.enter enters rfl task fun _ _ => trivial
  | step i =>
    rw [show (Move.step i : Move κ α).call?.toList = [] from rfl, List.append_nil]
    cases does_of_move h with
    | lock task => exact k.lock task
    | hit task entry enters => exact k.enter enters rfl task fun _ h => Call.admits_afterLease h (lent entry)
    | share task entry enters => exact k.enter enters rfl task fun _ h => Call.admits_afterLease h (lent entry)
    | miss task _ enters => exact k.enter enters rfl task fun _ h => h
    | queue task enters => exact k.enter enters rfl task fun _ h => h
    | reject task _ _ enters => exact k.enter enters rfl task fun _ h => Call.admits_afterRefusal h _
    | dial task _ _ enters => exact k.enter enters rfl task fun _ h => h
    | insert task enters => exact k.enter enters rfl task fun _ h => Call.admits_afterLease h rfl
    | remove task _ enters => exact k.enter enters rfl task fun _ h => Or.inl ⟨_, h⟩
    | removeNone task _ enters => exact k.enter enters rfl task fun _ h => Or.inl ⟨_, h⟩
    | evict task _ _ enters => exact k.enter enters rfl task fun _ h => Call.Evicts.removes h
    | evictNone task _ enters =>
      exact k.enter enters rfl task fun _ h => Call.admits_afterRemoval (Call.Evicts.removes h) _
    | drain task _ enters => exact k.enter enters rfl task fun _ h => Call.admits_toClose h _
    | note task _ enters => exact k.enter enters rfl task fun _ h => Call.admits_toPing h _ _
    | count task enters => exact k.enter enters rfl task fun _ h => h
    | contain task enters => exact k.enter enters rfl task fun _ h => ⟨_, h⟩
  | reply i r =>
    rw [show (Move.reply i r : Move κ α).call?.toList = [] from rfl, List.append_nil]
    cases does_of_move h with
    | dialed task enters => exact k.enter enters rfl task fun _ h => h
    | undialed task _ enters => exact k.enter enters rfl task fun _ h => Call.admits_afterRefusal h _
    | operated task enters =>
      refine k.enter enters rfl task fun _ h => ?_
      obtain ⟨⟨config, hcall, -⟩, -⟩ := h
      exact ⟨config, hcall⟩
    | failed task _ enters => exact k.enter enters rfl task fun _ h => Call.admits_afterOperation h.1 _
    | pinged task enters => exact k.enter enters rfl task fun _ h => Call.admits_toPing h _ _
    | unpinged task _ enters => exact k.enter enters rfl task fun _ h => h
    | closed task _ enters => exact k.enter enters rfl task fun _ h => Call.admits_afterRemoval h _

end Admitted

end Cache

theorem Run.admitted {κ α : Type} [BackendConfig κ] {backend : BackendKind} {options : CacheOptions}
    {order : EntryOrder} {c₀ c : Cache κ α} {h : History κ α} (new : Cache.ofOptions backend options order = .ok c₀)
    (run : Run c₀ h c) : c.Admitted h.calls := by
  induction run with
  | nil =>
    rw [Cache.ofOptions_eq_ok new]
    exact ⟨rfl, fun i call p hcall => by cases hcall⟩
  | @snoc h d e m _ move ih =>
    have hcalls : History.calls (h ++ [⟨d, m, e⟩]) = h.calls ++ m.call?.toList := by
      rw [History.calls_append]
      cases hm : m.call? <;> simp [History.calls, hm]
    exact hcalls ▸ ih.move move

/-- A task was in a phase of its call all along. -/
theorem Run.admits_before {κ α : Type} [BackendConfig κ] {backend : BackendKind} {options : CacheOptions}
    {order : EntryOrder} {c₀ c : Cache κ α} {h : History κ α}
    (new : Cache.ofOptions backend options order = .ok c₀) (run : Run c₀ h c)
    {x : Transition κ α} (hx : x ∈ h) {i : Nat} {call : Call κ} (hcall : h.calls[i]? = some call) {p : Phase κ α}
    (hp : x.before.phase? i = some p) : call.Admits p := by
  obtain ⟨h₁, h₂, rfl, before, -, -⟩ := run.upTo hx
  obtain ⟨l, task⟩ := Cache.phase?_eq_some.mp hp
  obtain ⟨call', hcall', admits⟩ := (before.admitted new).call_of_task task
  obtain ⟨hlt, -⟩ := List.getElem?_eq_some_iff.mp hcall'
  have same : some call' = some call := by
    rw [← hcall, ← hcall', History.calls_append]
    exact (List.getElem?_append_left hlt).symm
  cases same
  exact admits

end StoreAccess
