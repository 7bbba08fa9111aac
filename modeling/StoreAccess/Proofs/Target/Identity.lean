import StoreAccess.Backend.StoreConfig
import StoreAccess.Proofs.Number.Decimal
import StoreAccess.Proofs.Target.Encoding

/-! What a connection target is: the kind of the store and the fields that say where it is and who connects. Two
    configurations have the same bytes under their fingerprints iff they are the same target. -/

namespace StoreAccess

namespace FingerprintFields

end FingerprintFields

/-! ### The fields of each kind -/

namespace RelationalConfig

variable {a b c : RelationalConfig}

/-- The fields that every relational configuration has. -/
def fixedFields (c : RelationalConfig) : List (String × List String) :=
  [("user", [c.user]), ("password", [c.password.expose]), ("host", [c.host]), ("port", [c.portText]),
   ("database", [c.database])]

/-- The field of a session variable. -/
def variableField (p : String × String) : String × List String :=
  ("params" ++ "." ++ p.1, [p.2])

theorem fields_eq (c : RelationalConfig) :
    c.fingerprintFields.fields = c.fixedFields ++ c.params.sorted.map variableField :=
  FingerprintFields.fields_entries _ _ _

theorem mem_fields {p : String × List String} :
    p ∈ c.fingerprintFields.fields ↔ p ∈ c.fixedFields ∨ ∃ q ∈ c.params.entries, variableField q = p := by
  rw [fields_eq, List.mem_append, List.mem_map]
  simp only [Dict.sorted, List.mem_mergeSort]

theorem allMeasured_iff :
    c.fingerprintFields.AllMeasured ↔
      (∀ p ∈ c.fixedFields, FingerprintFields.FieldMeasured p) ∧
        ∀ q ∈ c.params.entries, FingerprintFields.FieldMeasured (variableField q) := by
  simp only [FingerprintFields.AllMeasured, mem_fields, or_imp, forall_and, forall_exists_index, and_imp,
    forall_apply_eq_imp_iff₂]

/-- No session variable, whatever its name, has the key of a fixed field: none of those begins like it. -/
theorem variableField_not_fixed (q : String × String) : variableField q ∉ c.fixedFields := by
  intro fixed
  have key : (variableField q).1 ∈ ["user", "password", "host", "port", "database"] :=
    List.mem_map.mpr ⟨_, fixed, rfl⟩
  have start : (variableField q).1.toList.take 7 = ['p', 'a', 'r', 'a', 'm', 's', '.'] := by
    simp [variableField]
  generalize (variableField q).1 = k at key start
  simp only [List.mem_cons, List.not_mem_nil, or_false] at key
  rcases key with rfl | rfl | rfl | rfl | rfl <;> exact absurd start (by decide)

theorem variableField_inj {p q : String × String} (same : variableField p = variableField q) : p = q := by
  obtain ⟨key, values⟩ := Prod.mk.inj same
  exact Prod.ext ((String.append_right_inj _).mp key) (List.cons.inj values).1

theorem mem_fixedFields {p : String × List String} (fixed : p ∈ a.fixedFields)
    (fields : a.fingerprintFields.fields.Perm b.fingerprintFields.fields) : p ∈ b.fixedFields := by
  rcases mem_fields.mp (fields.mem_iff.mp (mem_fields.mpr (Or.inl fixed))) with fixed' | ⟨q, -, rfl⟩
  · exact fixed'
  · exact absurd fixed (variableField_not_fixed q)

theorem mem_params {p : String × String}
    (fields : a.fingerprintFields.fields.Perm b.fingerprintFields.fields) (there : p ∈ a.params.entries) :
    p ∈ b.params.entries := by
  rcases mem_fields.mp (fields.mem_iff.mp (mem_fields.mpr (Or.inr ⟨p, there, rfl⟩))) with fixed | ⟨q, hq, same⟩
  · exact absurd fixed (variableField_not_fixed p)
  · exact variableField_inj same ▸ hq

/-- The same user at the same database, with the same session variables. -/
def SameTarget (a b : RelationalConfig) : Prop :=
  a.user = b.user ∧ a.password = b.password ∧ a.host = b.host ∧ a.port = b.port ∧ a.database = b.database ∧
    ∀ name, a.params.get? name = b.params.get? name

theorem perm_fields_iff :
    a.fingerprintFields.fields.Perm b.fingerprintFields.fields ↔ a.SameTarget b := by
  refine ⟨fun fields => ?_, fun ⟨user, password, host, port, database, params⟩ => ?_⟩
  · -- Fixed fields can only be found among the fixed ones, and variables among the variables.
    have fixed : a.fixedFields = b.fixedFields :=
      eq_of_subset ["user", "password", "host", "port", "database"]
        (fun p hp => mem_fixedFields hp fields) rfl rfl (by decide)
    simp only [fixedFields, List.cons.injEq, Prod.mk.injEq, true_and, and_true] at fixed
    obtain ⟨user, password, host, port, database⟩ := fixed
    refine ⟨user, congrArg Secret.mk password, host, natText_inj (String.ofList_injective port), database, ?_⟩
    refine fun name => Option.ext fun value => ?_
    rw [Dict.get?_eq_some_iff, Dict.get?_eq_some_iff]
    exact ⟨mem_params fields, mem_params fields.symm⟩
  · have sorted : a.params.sorted.Perm b.params.sorted :=
      (List.mergeSort_perm _ _).trans ((Dict.perm_iff_get?.mpr params).trans (List.mergeSort_perm _ _).symm)
    rw [fields_eq, fields_eq, fixedFields, fixedFields, portText, portText, user, password, host, port, database]
    exact (sorted.map variableField).append_left _

end RelationalConfig

theorem KeyValueConfig.perm_fields_iff {a b : KeyValueConfig} :
    a.fingerprintFields.fields.Perm b.fingerprintFields.fields ↔
      a.url = b.url ∧ a.password = b.password ∧ a.db = b.db := by
  have fields (c : KeyValueConfig) : c.fingerprintFields.fields =
      [("url", [c.url]), ("password", [c.password.expose]), ("db", [String.ofList (natText c.db)])] := rfl
  rw [fields, fields]
  refine ⟨fun perm => ?_, fun ⟨url, password, db⟩ => by rw [url, password, db]⟩
  have same := eq_of_subset ["url", "password", "db"] (fun p => perm.mem_iff.mp) rfl rfl (by decide)
  simp only [List.cons.injEq, Prod.mk.injEq, true_and, and_true] at same
  exact ⟨same.1, congrArg Secret.mk same.2.1, natText_inj (String.ofList_injective same.2.2)⟩

theorem CoordinationConfig.perm_fields_iff {a b : CoordinationConfig} :
    a.fingerprintFields.fields.Perm b.fingerprintFields.fields ↔
      a.endpoints.Perm b.endpoints ∧ a.username = b.username ∧ a.password = b.password := by
  have fields (c : CoordinationConfig) : c.fingerprintFields.fields =
      [("endpoints", c.endpoints.mergeSort FingerprintFields.textLe), ("username", [c.username]),
        ("password", [c.password.expose])] := rfl
  rw [← FingerprintFields.sorted_values_eq_iff, fields, fields]
  refine ⟨fun perm => ?_, fun ⟨endpoints, username, password⟩ => by rw [endpoints, username, password]⟩
  have same := eq_of_subset ["endpoints", "username", "password"] (fun p => perm.mem_iff.mp) rfl rfl
    (by decide)
  simp only [List.cons.injEq, Prod.mk.injEq, true_and, and_true] at same
  exact ⟨same.1, same.2.1, congrArg Secret.mk same.2.2⟩

theorem DocumentConfig.perm_fields_iff {a b : DocumentConfig} :
    a.fingerprintFields.fields.Perm b.fingerprintFields.fields ↔ a.address = b.address := by
  have fields (c : DocumentConfig) : c.fingerprintFields.fields = [("address", [c.address])] := rfl
  simp [fields]

theorem WideColumnConfig.perm_fields_iff {a b : WideColumnConfig} :
    a.fingerprintFields.fields.Perm b.fingerprintFields.fields ↔ a.url = b.url := by
  have fields (c : WideColumnConfig) : c.fingerprintFields.fields = [("url", [c.url])] := rfl
  simp [fields]

namespace StoreConfig

variable {a b c : StoreConfig}

/-- The same connection target. The order of session variables and of endpoints does not count, and neither do
    pools, nor what is chosen per operation: collections of documents, tables and their families. -/
def SameTarget : StoreConfig → StoreConfig → Prop
  | relational a, relational b => a.SameTarget b
  | keyValue a, keyValue b => a.url = b.url ∧ a.password = b.password ∧ a.db = b.db
  | document a, document b => a.address = b.address
  | coordination a, coordination b =>
    a.endpoints.Perm b.endpoints ∧ a.username = b.username ∧ a.password = b.password
  | wideColumn a, wideColumn b => a.url = b.url
  | _, _ => False

theorem kind_fingerprintFields (c : StoreConfig) : c.fingerprintFields.kind = c.kind := by
  cases c with
  | relational c => exact FingerprintFields.kind_entries _ _ _
  | _ => rfl

theorem sameTarget_iff :
    a.SameTarget b ↔ a.kind = b.kind ∧ a.fingerprintFields.fields.Perm b.fingerprintFields.fields := by
  cases a <;> cases b <;> simp only [SameTarget, kind, fingerprintFields, reduceCtorEq, false_and, true_and]
  case relational => exact RelationalConfig.perm_fields_iff.symm
  case keyValue => exact KeyValueConfig.perm_fields_iff.symm
  case document => exact DocumentConfig.perm_fields_iff.symm
  case coordination => exact CoordinationConfig.perm_fields_iff.symm
  case wideColumn => exact WideColumnConfig.perm_fields_iff.symm

/-- Configurations have the same bytes under their fingerprints iff they are the same target; so have they the
    same fingerprint, unless the digest of two different texts is the same. -/
theorem bytes_eq_iff_sameTarget (ha : a.fingerprintFields.AllMeasured) (hb : b.fingerprintFields.AllMeasured) :
    (a.fingerprintFields.bytes = b.fingerprintFields.bytes ↔ a.SameTarget b) ∧
      ((Sha256.digest a.fingerprintFields.bytes = Sha256.digest b.fingerprintFields.bytes →
          a.fingerprintFields.bytes = b.fingerprintFields.bytes) →
        (BackendConfig.fingerprint a = BackendConfig.fingerprint b ↔ a.SameTarget b)) := by
  have bytes : a.fingerprintFields.bytes = b.fingerprintFields.bytes ↔ a.SameTarget b := by
    rw [FingerprintFields.bytes_eq_iff ha hb, kind_fingerprintFields, kind_fingerprintFields, sameTarget_iff]
  refine ⟨bytes, fun noCollision => ⟨fun same => ?_, fun same => ?_⟩⟩
  · exact bytes.mp (noCollision (Fingerprint.mk.inj same))
  · exact congrArg (fun bytes => Fingerprint.mk (Sha256.digest bytes)) (bytes.mpr same)

/-- A database behind a small pool or a large one, with its session variables. -/
def shop (maxOpen : Nat) (params : List (String × String)) : RelationalConfig :=
  ⟨"root", ⟨"secret"⟩, "localhost", 3306, "shop", maxOpen, 0, .zero, .ofList params⟩

/-- Neither the pool nor the order in which variables were set counts, and where one variable's value ends and the
    next one's begins does. -/
theorem bytes_of_shops :
    let small := relational (shop 2 [("a", "12"), ("b", "")])
    let large := relational (shop 20 [("b", ""), ("a", "12")])
    let other := relational (shop 2 [("a", "1"), ("b", "2")])
    small.fingerprintFields.bytes = large.fingerprintFields.bytes ∧
      small.fingerprintFields.bytes ≠ other.fingerprintFields.bytes := by
  intro small large other
  have hsmall : small.fingerprintFields.AllMeasured := RelationalConfig.allMeasured_iff.mpr (by decide)
  have hlarge : large.fingerprintFields.AllMeasured := RelationalConfig.allMeasured_iff.mpr (by decide)
  have hother : other.fingerprintFields.AllMeasured := RelationalConfig.allMeasured_iff.mpr (by decide)
  refine ⟨(bytes_eq_iff_sameTarget hsmall hlarge).1.mpr ⟨rfl, rfl, rfl, rfl, rfl, ?_⟩, fun same => ?_⟩
  · exact Dict.perm_iff_get?.mp (by decide)
  · obtain ⟨-, -, -, -, -, params⟩ := (bytes_eq_iff_sameTarget hsmall hother).1.mp same
    exact absurd (params "a") (by decide)

end StoreConfig

end StoreAccess
