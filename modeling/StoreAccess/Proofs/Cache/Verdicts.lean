import StoreAccess.Proofs.Cache.Attempts

/-! What a call that runs an operation has heard of it. A value ends the call; up to there the operation has failed
    once at most, and where the call ends in an error it has failed twice at most and never yielded a value. -/

namespace StoreAccess

section
variable {κ α : Type} {n : Nat} {heard : List (Request κ × Reply α)} {request : Request κ} {r : Reply α}

/-- What came of the operations among some requests. -/
def verdicts (heard : List (Request κ × Reply α)) : List (Reply α) :=
  heard.filterMap fun x => x.1.operates?.map fun _ => x.2

theorem verdicts_append (heard heard' : List (Request κ × Reply α)) :
    verdicts (heard ++ heard') = verdicts heard ++ verdicts heard' :=
  List.filterMap_append

/-- At most so many operations were run, and none has yielded a value. -/
structure Failed (heard : List (Request κ × Reply α)) (n : Nat) : Prop where
  length : (verdicts heard).length ≤ n
  valueless : ∀ r ∈ verdicts heard, ∀ a, r ≠ .value a

namespace Failed

theorem mono {m : Nat} (failed : Failed heard m) (le : m ≤ n) : Failed heard n :=
  ⟨Nat.le_trans failed.length le, failed.valueless⟩

/-- Other requests count nothing. -/
theorem other (failed : Failed heard n) (idle : request.operates? = none) (r : Reply α) :
    Failed (heard ++ [(request, r)]) n := by
  have same : verdicts (heard ++ [(request, r)]) = verdicts heard := by
    rw [verdicts_append]
    simp [verdicts, idle]
  exact ⟨same ▸ failed.length, same ▸ failed.valueless⟩

theorem operated {l : Lease} (failed : Failed heard n) (valueless : ∀ a, r ≠ .value a) :
    Failed (heard ++ [(.operate l, r)]) (n + 1) := by
  have more : verdicts (heard ++ [(.operate l, r)]) = verdicts heard ++ [r] := verdicts_append ..
  refine ⟨?_, fun r' hr a => ?_⟩
  · rw [more, List.length_append]
    exact Nat.succ_le_succ failed.length
  · rw [more] at hr
    rcases List.mem_append.mp hr with hr | hr
    · exact failed.valueless r' hr a
    · rw [List.mem_singleton.mp hr]
      exact valueless a

end Failed

end

/-- How often an operation can have failed before an attempt. -/
def failures (again : Bool) : Nat := if again then 1 else 0

theorem failures_le (again : Bool) : failures again ≤ 1 := by cases again <;> simp [failures]

section
variable {κ α : Type} [BackendConfig κ] {c d : Cache κ α} {i : Nat} {p q : Phase κ α}
  {heard : List (Request κ × Reply α)} {request : Request κ} {r : Reply α} {target : Target κ} {again : Bool}

/-- A lease is acquired for an operation that has failed before only if it is run again. -/
def Purpose.Heard (heard : List (Request κ × Reply α)) (why : Purpose κ) : Prop :=
  ∃ again, why = .attempt again ∧ Failed heard (failures again)

/-- A handle is removed after an operation has failed on it. -/
def Aftermath.Heard (heard : List (Request κ × Reply α)) (why : Aftermath κ) : Prop :=
  ∃ target again e, why = .attempt target again e ∧ Failed heard (failures again + 1)

namespace Phase

/-- What a call that runs an operation has heard of it up to a phase. -/
def Heard (heard : List (Request κ × Reply α)) : Phase κ α → Prop
  | looking _ why | queueing _ why | rechecking _ why | dialing _ why | inserting _ why => why.Heard heard
  | operating _ again _ => Failed heard (failures again)
  | removingLease _ why | closing _ why => why.Heard heard
  | finished (.ran (.ok a)) => ∃ before l, heard = before ++ [(.operate l, .value a)] ∧ Failed before 1
  | finished (.ran (.error _)) => Failed heard 2
  | _ => False

theorem heard_afterFailure (failed : Failed heard (failures again + 1)) (e : Error) :
    (afterFailure target again e : Phase κ α).Heard heard := by
  unfold afterFailure
  split
  · rename_i retry
    simp only [Bool.and_eq_true, Bool.not_eq_true'] at retry
    obtain ⟨-, rfl⟩ := retry
    exact ⟨true, rfl, failed⟩
  · exact failed.mono (Nat.succ_le_succ (failures_le again))

theorem heard_afterLease {why : Purpose κ} (awaiting : why.Heard heard) (l : Lease) :
    (afterLease target why l : Phase κ α).Heard heard := by
  obtain ⟨again, rfl, failed⟩ := awaiting
  exact failed

theorem heard_afterRefusal {why : Purpose κ} (awaiting : why.Heard heard) (e : Error) :
    (afterRefusal target why e : Phase κ α).Heard heard := by
  obtain ⟨again, rfl, failed⟩ := awaiting
  exact heard_afterFailure (failed.mono (Nat.le_succ _)) e

theorem heard_afterRemoval {why : Aftermath κ} (recovering : why.Heard heard) (found : Bool) :
    (afterRemoval why found : Phase κ α).Heard heard := by
  obtain ⟨target, again, e, rfl, failed⟩ := recovering
  exact heard_afterFailure failed e

theorem heard_afterOperation {l : Lease} (failed : Failed heard (failures again + 1)) (e : Error) :
    (afterOperation target again l e : Phase κ α).Heard heard := by
  unfold afterOperation
  split
  · exact ⟨target, again, e, rfl, failed⟩
  · exact failed.mono (Nat.succ_le_succ (failures_le again))

/-- A step hears nothing. -/
theorem Heard.step (known : p.Heard heard) (hp : c.phase? i = some p) (step : c.step i = some d)
    (hq : d.phase? i = some q) : q.Heard heard := by
  have enter : ∀ {c' : Cache κ α} {p' q' : Phase κ α} {l : Option Lock}, c'.Enters i q' d → c'.tasks = c.tasks →
      c.tasks[i]? = some ⟨p', l⟩ → (p'.Heard heard → q'.Heard heard) → q.Heard heard :=
    fun {c' p' q' l} enters same task keeps => by
      cases hp.symm.trans (Cache.phase?_of_task task)
      cases hq.symm.trans (enters.phase?_eq same task)
      exact keeps known
  have does := Cache.does_of_step step
  cases does with
  | lock task =>
    cases hp.symm.trans ((Cache.lock_phase? task).symm.trans hq)
    exact known
  | hit task _ enters => exact enter enters rfl task fun known => heard_afterLease known _
  | share task _ enters => exact enter enters rfl task fun known => heard_afterLease known _
  | insert task enters => exact enter enters rfl task fun known => heard_afterLease known _
  | reject task _ _ enters => exact enter enters rfl task fun known => heard_afterRefusal known _
  | miss task _ enters => exact enter enters rfl task fun known => known
  | queue task enters => exact enter enters rfl task fun known => known
  | dial task _ _ enters => exact enter enters rfl task fun known => known
  | evict task _ _ enters => exact enter enters rfl task fun known => known
  | evictNone task _ enters => exact enter enters rfl task fun known => heard_afterRemoval known _
  | remove task _ enters => exact enter enters rfl task fun known => nomatch known
  | removeNone task _ enters => exact enter enters rfl task fun known => nomatch known
  | drain task _ enters => exact enter enters rfl task fun known => nomatch known
  | note task _ enters => exact enter enters rfl task fun known => nomatch known
  | count task enters => exact enter enters rfl task fun known => nomatch known
  | contain task enters => exact enter enters rfl task fun known => nomatch known

theorem Heard.reply (known : p.Heard heard) (hp : c.phase? i = some p) (asks : p.request? = some request)
    (reply : c.reply i r = some d) (hq : d.phase? i = some q) : q.Heard (heard ++ [(request, r)]) := by
  have enter : ∀ {c' : Cache κ α} {p' q' : Phase κ α} {l : Option Lock}, c'.Enters i q' d → c'.tasks = c.tasks →
      c.tasks[i]? = some ⟨p', l⟩ →
      (p'.Heard heard → p'.request? = some request → q'.Heard (heard ++ [(request, r)])) →
      q.Heard (heard ++ [(request, r)]) :=
    fun {c' p' q' l} enters same task keeps => by
      cases hp.symm.trans (Cache.phase?_of_task task)
      cases hq.symm.trans (enters.phase?_eq same task)
      exact keeps known asks
  have does := Cache.does_of_reply reply
  cases does with
  | dialed task enters =>
    refine enter enters rfl task fun known asks => ?_
    cases asks
    obtain ⟨again, why, failed⟩ := known
    exact ⟨again, why, failed.other rfl _⟩
  | undialed task _ enters =>
    refine enter enters rfl task fun known asks => ?_
    cases asks
    obtain ⟨again, why, failed⟩ := known
    exact heard_afterRefusal ⟨again, why, failed.other rfl _⟩ _
  | operated task enters =>
    refine enter enters rfl task fun known asks => ?_
    cases asks
    exact ⟨heard, _, rfl, Failed.mono known (failures_le _)⟩
  | failed task reply enters =>
    refine enter enters rfl task fun known asks => ?_
    cases asks
    refine heard_afterOperation (Failed.operated known fun a => ?_) _
    rcases reply with rfl | ⟨rfl, -⟩ <;> simp
  | closed task _ enters =>
    refine enter enters rfl task fun known asks => ?_
    cases asks
    obtain ⟨target, again, e, why, failed⟩ := known
    exact heard_afterRemoval ⟨target, again, e, why, failed.other rfl _⟩ _
  | pinged task enters => exact enter enters rfl task fun known => nomatch known
  | unpinged task _ enters => exact enter enters rfl task fun known => nomatch known

end Phase

end

end StoreAccess
