import StoreAccess.Proofs.Sql.Lines

/-! Transactions through a store. A call may try its transaction twice, and the server may be slow or refuse
    anything at any point; still the caller is told of a success exactly if a commit was acknowledged, and then it
    was one commit, of the last transaction. -/

namespace StoreAccess

section
variable {σ : Type} {server : Mysql.TimedServer σ} {options : CacheOptions} {sql : String}
  {batches : List (List Value)} {talks : List Mysql.Talk} {outcomes : List ExecOutcome}
  {heard : List (Request RelationalConfig × Reply SqlAnswer)}

namespace Mysql

/-! ### One talk -/

/-- A call for a transaction has nothing else to say on a handle. -/
theorem path_of_call {said : List Exchange} {result : Option (Except Error SqlAnswer)}
    (path : (Dialogue.ofCall (.executeBatch sql batches)).Path said result) :
    ∃ ended, (Dialogue.executeBatch sql batches).Path said ended ∧ result = ended.map (Except.map .outcomes) :=
  Dialogue.path_rename path

namespace Tells

variable {talk : Talk} {x : Request RelationalConfig × Reply SqlAnswer}
  (tells : Tells (.executeBatch sql batches) talk x)
include tells

theorem transaction : Transaction sql batches talk.exchanges := by
  obtain ⟨request, r⟩ := x
  cases tells.said with
  | operated path =>
    obtain ⟨ended, told, -⟩ := path_of_call path
    exact transaction_of_path told
  | plain _ plain => exact transaction_of_plain plain

/-- Nothing is acknowledged where no outcome is told of. -/
theorem unacknowledged (valueless : ∀ r ∈ verdicts [x], ∀ a, r ≠ .value a) :
    talk.exchanges.countP Exchange.acknowledges = 0 := by
  obtain ⟨request, r⟩ := x
  cases tells.said with
  | @operated _ l said result path =>
    obtain ⟨ended, told, rfl⟩ := path_of_call path
    have failed : ∀ outcomes, ended ≠ some (.ok outcomes) := by
      rintro outcomes rfl
      exact valueless (.value (.outcomes outcomes)) (List.mem_singleton_self _) _ rfl
    exact unacknowledged_of_path told failed
  | plain _ plain => exact unacknowledged_of_plain plain

end Tells

/-- Where an outcome is told of, it is that of a commit. -/
theorem Tells.committed {talk : Talk} {l : Lease} {a : SqlAnswer}
    (tells : Tells (.executeBatch sql batches) talk (.operate l, .value a)) :
    a.eachChange.length = batches.length ∧ talk.exchanges =
      ⟨.startTransaction, some (.ok ())⟩ :: executions sql batches a.eachChange ++ [⟨.commit, some (.ok ())⟩] := by
  obtain ⟨-, said⟩ := tells
  generalize outcome : (Reply.value a : Reply SqlAnswer) = r at said
  cases said with
  | operated path =>
    obtain ⟨ended, told, rfl⟩ := path_of_call path
    match ended with
    | none => cases outcome
    | some (.error _) => cases outcome
    | some (.ok outcomes) =>
      cases outcome
      exact committed_of_path told
  | plain idle => cases idle

/-! ### All talks of a call -/

/-- All that was said in some talks. -/
def exchangesOf (talks : List Talk) : List Exchange := talks.flatMap Talk.exchanges

theorem unacknowledged (tell : List.Forall₂ (Tells (.executeBatch sql batches)) talks heard)
    (valueless : ∀ r ∈ verdicts heard, ∀ a, r ≠ .value a) :
    (exchangesOf talks).countP Exchange.acknowledges = 0 := by
  induction tell with
  | nil => rfl
  | @cons talk x talks heard tells _ ih =>
    rw [← List.singleton_append, verdicts_append] at valueless
    rw [exchangesOf, List.flatMap_cons, List.countP_append,
      tells.unacknowledged fun r hr => valueless r (List.mem_append_left _ hr)]
    exact (Nat.zero_add _).trans (ih fun r hr => valueless r (List.mem_append_right _ hr))

end Mysql

namespace RelationalStore

variable {s : RelationalStore (Mysql.Line σ)}

end RelationalStore

end

/-! A server that takes a minute for its first commit, and a new store. -/

namespace Orders

def server : Mysql.TimedServer Nat where
  carryOut commits
    | .commit => (commits + 1, if commits = 0 then 60000 else 0, .ok ())
    | .execute .. => (commits, 1, .ok ⟨1, none⟩)
    | .query .. | .rows => (commits, 0, .ok [])
    | .connection | .ping | .startTransaction | .rollback | .disconnect => (commits, 0, .ok ())

def config : RelationalConfig := .ofTarget "app" ⟨"secret"⟩ "db.local" 3306 "orders"

def store : RelationalStore (Mysql.Line Nat) :=
  ⟨.ofCache ⟨.relational, .default, .ofInsertion, [], [], 0, .zero, [], []⟩ ⟨⟨0, [], []⟩, []⟩, .default⟩

theorem new : RelationalStore.ofOptions ⟨0, [], []⟩ .default .ofInsertion = .ok store := rfl

def sql : String := "INSERT INTO orders VALUES (?)"

def batches : List (List Value) := [[.int 1], [.int 2]]

/-- The fields of the configuration in order. -/
def fields : List (String × List String) :=
  [("database", ["orders"]), ("host", ["db.local"]), ("password", ["secret"]), ("port", ["3306"]), ("user", ["app"])]

theorem fingerprint_eq : BackendConfig.fingerprint config =
    ⟨Sha256.digest (Text.utf8 BackendKind.relational.name ++ fields.flatMap FingerprintFields.fieldBytes)⟩ := by
  have finished : BackendConfig.fingerprint config = ⟨Sha256.digest config.fingerprintFields.bytes⟩ := rfl
  have given : config.fingerprintFields = ⟨.relational,
      [("user", ["app"]), ("password", ["secret"]), ("host", ["db.local"]), ("port", ["3306"]),
        ("database", ["orders"])]⟩ := by decide +kernel
  have sorted : config.fingerprintFields.fields.mergeSort FingerprintFields.fieldLe = fields := by
    rw [given]
    simp [fields, List.mergeSort, List.MergeSort.Internal.splitInTwo, FingerprintFields.fieldLe,
      FingerprintFields.textLe]
  rw [finished, FingerprintFields.bytes, sorted, given]

/-- The first commit is cut off, so all is run again on a new handle and committed. -/
theorem ran : (store.executeInTransaction (Mysql.client server .default) config sql batches).2 =
    .ok [⟨1, none⟩, ⟨1, none⟩] := by
  simp only [RelationalStore.executeInTransaction, RelationalStore.run, Timeline.call, Timeline.begin, Cache.start,
    Phase.ofCall, Target.ofConfig, fingerprint_eq]
  decide +kernel

end Orders

end StoreAccess
