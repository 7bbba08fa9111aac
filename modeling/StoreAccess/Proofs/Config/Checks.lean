import StoreAccess.Backend.StoreConfig
import StoreAccess.Proofs.Data.Outcomes

/-! What the checks of configurations let pass. A configuration that passes its own check has a pool that passes
    too, so nothing is left to be refused when it is dialed. -/

namespace StoreAccess

/-! ### Fields and pools -/

theorem FieldFault.report_eq_ok_iff {faults : List FieldFault} : report faults = .ok () ↔ faults = [] := by
  have sorted : (faults.map text).mergeSort (fun a b => decide (a ≤ b)) = [] ↔ faults = [] := by
    rw [← List.length_eq_zero_iff, List.length_mergeSort, List.length_map, List.length_eq_zero_iff]
  rw [← sorted, report]
  split
  · rename_i empty
    exact ⟨fun _ => empty, fun _ => rfl⟩
  · rename_i more
    exact ⟨fun failed => (by cases failed), fun empty => absurd empty more⟩

theorem FieldFault.ofText_eq_nil_iff {field value : String} : ofText field value = [] ↔ value ≠ "" := by
  rw [ofText]
  split <;> simp [*]

namespace PoolSettings

theorem check_eq_ok_iff {p : PoolSettings} : p.check = .ok () ↔ p.maxIdle ≤ p.maxOpen := by
  rw [check]
  split
  · rename_i more
    exact ⟨fun failed => (by cases failed), fun fits => absurd more (Nat.not_lt.mpr fits)⟩
  · rename_i fits
    exact ⟨fun _ => Nat.not_lt.mp fits, fun _ => rfl⟩

theorem check_default : default.check = .ok () := rfl

/-- Zero stands for a default that is not zero, so a client may always open a connection. -/
theorem maxOpen_ofCounts_pos (maxOpen maxIdle : Nat) (maxLifetime : Duration) :
    0 < (ofCounts maxOpen maxIdle maxLifetime).maxOpen := by
  rw [ofCounts]
  dsimp only
  split <;> omega

end PoolSettings

/-! ### Configurations -/

namespace RelationalConfig

variable {c : RelationalConfig}

theorem checkParams_eq_ok_iff : c.checkParams = .ok () ↔ ∀ p ∈ c.params.entries, isVariableName p.1 = true := by
  have names : ((c.params.sorted.map Prod.fst).find? fun name => !isVariableName name) = none ↔
      ∀ p ∈ c.params.entries, isVariableName p.1 = true := by
    simp [List.find?_eq_none, Dict.sorted]
  rw [← names, checkParams]
  split
  · rename_i name found
    exact ⟨fun failed => (by cases failed), fun valid => absurd (valid.symm.trans found) (by simp)⟩
  · rename_i empty
    exact ⟨fun _ => empty, fun _ => rfl⟩

theorem check_eq_ok_iff :
    c.check = .ok () ↔ c.host ≠ "" ∧ 0 < c.port ∧ c.user ≠ "" ∧ c.pool.maxIdle ≤ c.pool.maxOpen ∧
      ∀ p ∈ c.params.entries, isVariableName p.1 = true := by
  have faultless : c.faults = [] ↔ c.host ≠ "" ∧ 0 < c.port ∧ c.user ≠ "" := by
    have port : (if c.port < 1 then [(⟨"port", "range"⟩ : FieldFault)] else []) = [] ↔ 0 < c.port := by
      split <;> simp <;> omega
    rw [faults, List.append_eq_nil_iff, List.append_eq_nil_iff, FieldFault.ofText_eq_nil_iff, port,
      FieldFault.ofText_eq_nil_iff, and_assoc]
  rw [check, Except.bind_eq_ok_iff, Except.bind_eq_ok_iff, FieldFault.report_eq_ok_iff, faultless,
    PoolSettings.check_eq_ok_iff, checkParams_eq_ok_iff, and_assoc, and_assoc]

end RelationalConfig

theorem StoreConfig.pool_check_of_check {c : StoreConfig} (accepted : c.check = .ok ()) : c.pool.check = .ok () := by
  cases c with
  | relational c => exact PoolSettings.check_eq_ok_iff.mpr (RelationalConfig.check_eq_ok_iff.mp accepted).2.2.2.1
  | keyValue c | document c | coordination c | wideColumn c => exact PoolSettings.check_default

end StoreAccess
