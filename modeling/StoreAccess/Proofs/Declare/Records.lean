import StoreAccess.Declare.Record
import StoreAccess.Proofs.Data.Outcomes

/-! The record type of a declaration. Descriptions and arms are made field by field, and skipped fields have no
    arm; still each arm stands at the index of its own field. -/

namespace StoreAccess
namespace Declare

theorem lookup_numbered_of_lt {arms : List (Option Arm)} {start index : Nat} (before : index < start) :
    (numbered start arms).lookup index = none := by
  induction arms generalizing start with
  | nil => rfl
  | cons arm arms ih =>
    have later := ih (Nat.lt_succ_of_lt before)
    cases arm with
    | none => exact later
    | some arm => rw [numbered, List.lookup_cons, beq_false_of_ne (Nat.ne_of_lt before), later]

/-- The arms that are there keep the places they were made at. -/
theorem lookup_numbered (arms : List (Option Arm)) (start index : Nat) :
    (numbered start arms).lookup (start + index) = (arms[index]?).join := by
  induction arms generalizing start index with
  | nil => rfl
  | cons arm arms ih =>
    cases index with
    | zero =>
      cases arm with
      | none => exact @lookup_numbered_of_lt arms (start + 1) start (Nat.lt_succ_self start)
      | some arm => simp [numbered]
    | succ index =>
      have later := ih (start + 1) index
      rw [Nat.add_right_comm] at later
      cases arm with
      | none => exact later
      | some arm =>
        have other : start + (index + 1) ≠ start := by omega
        rw [numbered, List.lookup_cons, beq_false_of_ne other]
        exact later

/-! ### Descriptions -/

namespace Described

theorem foldl_apply_name (calls : List Call) (f : FieldSpec) : (calls.foldl apply f).name = f.name := by
  induction calls generalizing f with
  | nil => rfl
  | cons call calls ih =>
    rw [List.foldl_cons, ih]
    cases call <;> rfl

theorem foldl_apply_kind (calls : List Call) (f : FieldSpec) : (calls.foldl apply f).kind = f.kind := by
  induction calls generalizing f with
  | nil => rfl
  | cons call calls ih =>
    rw [List.foldl_cons, ih]
    cases call <;> rfl

theorem foldl_apply_skip (calls : List Call) (f : FieldSpec) :
    (calls.foldl apply f).skip = (f.skip || calls.contains .skip) := by
  induction calls generalizing f with
  | nil => simp
  | cons call calls ih =>
    rw [List.foldl_cons, ih, List.contains_cons]
    cases call with
    | skip => simp [apply, FieldSpec.skipped]
    | _ => rfl

variable (d : Described)

@[simp] theorem spec_name : d.spec.name = d.name := foldl_apply_name d.calls _

@[simp] theorem spec_kind : d.spec.kind = .ofTypeName d.typeName := foldl_apply_kind d.calls _

theorem spec_skip : d.spec.skip = d.calls.contains .skip := by
  rw [spec, foldl_apply_skip]
  rfl

/-- What the setter does about the field, unless it is skipped. -/
def arm : Arm :=
  if assignable.contains d.typeName then .assign d.name else .reject d.name d.typeName

end Described

/-- A field's description says that it is skipped exactly if it has no arm. -/
theorem Field.arm_of_describe? {f : Field} {d : Described} {arm : Option Arm}
    (described : f.describe? = some (d, arm)) :
    arm = if d.spec.skip then none else some d.arm := by
  simp only [Field.describe?, Option.bind_eq_bind, Option.bind_eq_some_iff] at described
  obtain ⟨name, -, type, -, a, -, made⟩ := described
  cases made
  rw [Described.spec_skip]
  cases skip : a.skip.getD false with
  | true => simp [Call.when]
  | false =>
    have kept : (((a.column.map Call.column).toList ++ (a.default.map Call.default).toList
        ++ Call.when (a.notEmpty.getD false) .notEmpty ++ Call.when false .skip
        ++ Call.when type.unwrapOption.2 .optional).contains Call.skip) = false := by
      cases a.column <;> cases a.default <;> cases a.notEmpty.getD false <;> cases type.unwrapOption.2 <;> rfl
    rw [kept]
    rfl

/-! ### Record types -/

/-- Each field of the record type is described, and its arm stands at its index. -/
theorem Struct.lookup_arms {s : Struct} {r : Record} (declared : s.record? = some r) {index : Nat} {d : Described}
    (place : r.fields[index]? = some d) :
    r.arms.lookup index = if d.spec.skip then none else some d.arm := by
  simp only [Struct.record?, Option.bind_eq_bind] at declared
  split at declared
  · cases declared
  · simp only [Option.bind_eq_some_iff] at declared
    obtain ⟨described, each, made⟩ := declared
    cases made
    simp only [List.getElem?_map, Option.map_eq_some_iff] at place
    obtain ⟨⟨d', arm⟩, there, rfl⟩ := place
    obtain ⟨f, -, ofField⟩ := exists_of_mem_mapM each _ (List.mem_of_getElem? there)
    have arms := lookup_numbered (described.map Prod.snd) 0 index
    rw [Nat.zero_add, List.getElem?_map, there] at arms
    rw [arms]
    exact Field.arm_of_describe? ofField

theorem Record.slots_recordType (r : Record) (initial : FieldSpec → Cell) (index : Nat) :
    (r.recordType initial).slots[index]? =
      (r.fields[index]?).map fun d => ⟨d.spec, r.assignment index d.spec, initial d.spec⟩ := by
  simp [Record.recordType, Record.schema, List.getElem?_mapIdx, Function.comp_def]

end Declare
end StoreAccess
