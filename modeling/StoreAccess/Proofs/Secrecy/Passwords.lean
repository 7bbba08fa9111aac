import StoreAccess.Mysql.Session
import StoreAccess.Proofs.Secrecy.Stores
import StoreAccess.Proofs.Target.Identity

/-! What a password is for: it tells targets apart, and it is given to the client that dials. Nothing else depends on
    it but for the question whether there is one. So a run with other passwords in the place of the old ones looks the
    same, if different fingerprints stay different. -/

namespace StoreAccess

/-- Other passwords in the place of the old ones: different ones stay different, and no password stays none. -/
structure Resealing where
  replace : String → String
  injective : Function.Injective replace
  replace_empty : replace "" = ""

variable (r : Resealing)

def Secret.reseal (s : Secret) : Secret := ⟨r.replace s.expose⟩

def RelationalConfig.reseal (c : RelationalConfig) : RelationalConfig := { c with password := c.password.reseal r }

def KeyValueConfig.reseal (c : KeyValueConfig) : KeyValueConfig := { c with password := c.password.reseal r }

def CoordinationConfig.reseal (c : CoordinationConfig) : CoordinationConfig :=
  { c with password := c.password.reseal r }

namespace StoreConfig

/-- Stores of documents and wide columns have no passwords. -/
def reseal : StoreConfig → StoreConfig
  | relational c => relational (c.reseal r)
  | keyValue c => keyValue (c.reseal r)
  | coordination c => coordination (c.reseal r)
  | document c => document c
  | wideColumn c => wideColumn c

end StoreConfig

theorem Secret.reseal_inj {s t : Secret} : s.reseal r = t.reseal r ↔ s = t := by
  rw [reseal, reseal, mk.injEq, r.injective.eq_iff]
  exact ⟨congrArg mk, congrArg expose⟩

theorem Secret.isEmpty_reseal (s : Secret) : (s.reseal r).isEmpty = s.isEmpty := by
  refine decide_eq_decide.mpr ?_
  rw [← r.injective.eq_iff (a := s.expose), r.replace_empty]
  rfl

theorem CoordinationConfig.check_reseal (c : CoordinationConfig) : (c.reseal r).check = c.check := by
  simp only [check, reseal, Secret.isEmpty_reseal]
  rfl

namespace StoreConfig

variable (c : StoreConfig)

theorem kind_reseal : (c.reseal r).kind = c.kind := by cases c <;> rfl

theorem pool_reseal : (c.reseal r).pool = c.pool := by cases c <;> rfl

theorem check_reseal : (c.reseal r).check = c.check := by
  cases c with
  | coordination c => exact c.check_reseal r
  | _ => rfl

theorem dump_reseal : (c.reseal r).dump = c.dump := by cases c <;> rfl

theorem toJson_reseal : (c.reseal r).toJson = c.toJson := by cases c <;> rfl

variable {r} in
theorem sameTarget_reseal_iff {a b : StoreConfig} : (a.reseal r).SameTarget (b.reseal r) ↔ a.SameTarget b := by
  cases a <;> cases b <;> simp only [reseal, SameTarget]
  case relational => simp only [RelationalConfig.SameTarget, RelationalConfig.reseal, Secret.reseal_inj]
  case keyValue => simp only [KeyValueConfig.reseal, Secret.reseal_inj]
  case coordination => simp only [CoordinationConfig.reseal, Secret.reseal_inj]

end StoreConfig

/-! ### Configurations that stand for each other -/

/-- Two of the configurations have one fingerprint only if the same bytes are under it, and so with their new
    passwords. -/
structure Resealing.Apart (cs : List StoreConfig) : Prop where
  measured : ∀ c ∈ cs, c.fingerprintFields.AllMeasured ∧ (c.reseal r).fingerprintFields.AllMeasured
  before : ∀ a ∈ cs, ∀ b ∈ cs, Sha256.digest a.fingerprintFields.bytes = Sha256.digest b.fingerprintFields.bytes →
    a.fingerprintFields.bytes = b.fingerprintFields.bytes
  after : ∀ a ∈ cs, ∀ b ∈ cs,
    Sha256.digest (a.reseal r).fingerprintFields.bytes = Sha256.digest (b.reseal r).fingerprintFields.bytes →
      (a.reseal r).fingerprintFields.bytes = (b.reseal r).fingerprintFields.bytes

variable {r} {cs : List StoreConfig} {κ : Type} [BackendConfig κ]

theorem Resealing.Apart.fingerprint_eq_iff (apart : r.Apart cs) {a b : StoreConfig} (ha : a ∈ cs) (hb : b ∈ cs) :
    BackendConfig.fingerprint a = BackendConfig.fingerprint b ↔
      BackendConfig.fingerprint (a.reseal r) = BackendConfig.fingerprint (b.reseal r) := by
  obtain ⟨ma, ma'⟩ := apart.measured a ha
  obtain ⟨mb, mb'⟩ := apart.measured b hb
  rw [(StoreConfig.bytes_eq_iff_sameTarget ma mb).2 (apart.before a ha b hb),
    (StoreConfig.bytes_eq_iff_sameTarget ma' mb').2 (apart.after a ha b hb), StoreConfig.sameTarget_reseal_iff]

/-- A type of configurations, as part of all configurations. -/
structure StoreConfig.Part (κ : Type) [BackendConfig κ] where
  whole : κ → StoreConfig
  kind : ∀ c, BackendConfig.kind (whole c) = BackendConfig.kind c
  pool : ∀ c, BackendConfig.pool (whole c) = BackendConfig.pool c
  check : ∀ c, BackendConfig.check (whole c) = BackendConfig.check c
  fingerprint : ∀ c, BackendConfig.fingerprint (whole c) = BackendConfig.fingerprint c

namespace StoreConfig.Part

def all : Part StoreConfig := ⟨id, fun _ => rfl, fun _ => rfl, fun _ => rfl, fun _ => rfl⟩

def relational : Part RelationalConfig := ⟨.relational, fun _ => rfl, fun _ => rfl, fun _ => rfl, fun _ => rfl⟩

def keyValue : Part KeyValueConfig := ⟨.keyValue, fun _ => rfl, fun _ => rfl, fun _ => rfl, fun _ => rfl⟩

def coordination : Part CoordinationConfig := ⟨.coordination, fun _ => rfl, fun _ => rfl, fun _ => rfl, fun _ => rfl⟩

/-- Each of the given configurations stands for itself with its new password, and its fingerprint for the one that
    it then has. A fingerprint of none of them stands for itself. -/
def likeness (part : Part κ) (apart : r.Apart cs) : Likeness κ where
  Config a b := part.whole a ∈ cs ∧ part.whole b = (part.whole a).reseal r
  Print f f' := (∃ c ∈ cs, f = BackendConfig.fingerprint c ∧ f' = BackendConfig.fingerprint (c.reseal r)) ∨
    f = f' ∧ ∀ c ∈ cs, BackendConfig.fingerprint c ≠ f ∧ BackendConfig.fingerprint (c.reseal r) ≠ f
  kind {a b} := by
    rintro ⟨-, same⟩
    rw [← part.kind a, ← part.kind b, same]
    exact (kind_reseal r _).symm
  pool {a b} := by
    rintro ⟨-, same⟩
    rw [← part.pool a, ← part.pool b, same]
    exact (pool_reseal r _).symm
  check {a b} := by
    rintro ⟨-, same⟩
    rw [← part.check a, ← part.check b, same]
    exact (check_reseal r _).symm
  fingerprint {a b} := by
    rintro ⟨there, same⟩
    refine .inl ⟨part.whole a, there, (part.fingerprint a).symm, ?_⟩
    rw [← part.fingerprint b, same]
  one_to_one := by
    rintro f f' g g' (⟨a, ha, rfl, rfl⟩ | ⟨rfl, foreign⟩) (⟨b, hb, rfl, rfl⟩ | ⟨rfl, foreign'⟩)
    · exact apart.fingerprint_eq_iff ha hb
    · exact iff_of_false (foreign' a ha).1 (foreign' a ha).2
    · exact iff_of_false (foreign b hb).1.symm (foreign b hb).2.symm
    · exact Iff.rfl

theorem displayUrl_eq {apart : r.Apart cs} {a b : RelationalConfig}
    (alike : (relational.likeness apart).Config a b) : a.displayUrl = b.displayUrl := by
  obtain ⟨-, same⟩ := alike
  obtain rfl : b = a.reseal r := StoreConfig.relational.inj same
  rfl

end StoreConfig.Part

/-! ### Runs with other passwords -/

/-- What a run with new passwords shares with the same run with the old ones. Both have the same calls, steps and
    replies; what is alike differs in nothing but the fingerprints in it, and errors are the same. -/
structure Resealing.Unseen (apart : r.Apart cs) : Prop where
  configs : ∀ c : StoreConfig, (c.reseal r).dump = c.dump ∧ (c.reseal r).toJson = c.toJson ∧
    BackendConfig.check (c.reseal r) = BackendConfig.check c
  displayUrl : ∀ c : RelationalConfig, (c.reseal r).displayUrl = c.displayUrl
  /-- How a client connects, but for the password itself. -/
  dialing : ∀ (c : RelationalConfig) (pool : PoolSettings), Mysql.ClientOptions.ofConfig (c.reseal r) pool =
    { Mysql.ClientOptions.ofConfig c pool with password := c.password.reseal r }
  /-- Calls on a cache, their steps in any order. -/
  caches : ∀ {κ α : Type} [BackendConfig κ] (part : StoreConfig.Part κ) {backend : BackendKind}
    {options : CacheOptions} {order : EntryOrder} {c : Cache κ α} {ms ms' : List (Move κ α)},
    Cache.ofOptions backend options order = .ok c → List.Forall₂ (Move.Alike (part.likeness apart)) ms ms' →
    Option.Rel (fun x x' => List.Forall₂ (Transition.Alike (part.likeness apart)) x.1 x'.1 ∧
      x.2.Alike (part.likeness apart) x'.2) (c.replay ms) (c.replay ms')
  /-- Calls on a cache and on stores over it, their steps in any order. -/
  sideBySide : ∀ {options : CacheOptions} {order : EntryOrder} {c : Cache RelationalConfig SqlAnswer}
    {xs xs' : List RelationalStore.Happening}, Cache.ofOptions .relational options order = .ok c →
    List.Forall₂ (RelationalStore.Happening.Alike (StoreConfig.Part.relational.likeness apart)) xs xs' →
    Option.Rel (Cache.Alike (StoreConfig.Part.relational.likeness apart)) (RelationalStore.happenAll c xs)
      (RelationalStore.happenAll c xs')
  /-- Calls on a store and its cache, with clients that reply the same after the same time. -/
  stores : ∀ {σ : Type} {S : σ → σ → Prop} {client client' : SqlClient σ} {t t' : σ} {options : CacheOptions}
    {order : EntryOrder} {s s' : RelationalStore σ} {as as' : List RelationalStore.Act},
    client.Alike (StoreConfig.Part.relational.likeness apart) S client' → S t t' →
    RelationalStore.ofOptions t options order = .ok s → RelationalStore.ofOptions t' options order = .ok s' →
    List.Forall₂ (RelationalStore.Act.Alike (StoreConfig.Part.relational.likeness apart)) as as' →
    (s.acts client as).1.Alike (StoreConfig.Part.relational.likeness apart) S (s'.acts client' as').1 ∧
      List.Forall₂ (RelationalStore.Result.Alike (StoreConfig.Part.relational.likeness apart)) (s.acts client as).2
        (s'.acts client' as').2
  /-- The client that dials a database server, if the server replies the same. -/
  mysql : ∀ {σ : Type} (server : Mysql.TimedServer σ) (options : CacheOptions),
    (Mysql.client server options).Alike (StoreConfig.Part.relational.likeness apart)
      (Mysql.Line.Alike (StoreConfig.Part.relational.likeness apart)) (Mysql.client server options)

theorem Resealing.unseen (apart : r.Apart cs) : r.Unseen apart where
  configs c := ⟨c.dump_reseal r, c.toJson_reseal r, c.check_reseal r⟩
  displayUrl _ := rfl
  dialing _ _ := rfl
  caches _ _ _ _ _ _ _ new moves := (Cache.alike_of_new new).replay moves
  sideBySide new happenings :=
    RelationalStore.happenAll_alike StoreConfig.Part.displayUrl_eq (Cache.alike_of_new new) happenings
  stores clients states new new' acts :=
    (RelationalStore.alike_of_new new new' states).acts clients StoreConfig.Part.displayUrl_eq acts
  mysql server options := Mysql.client_alike server options StoreConfig.Part.displayUrl_eq

/-! ### Two passwords to one store -/

theorem KeyValueConfig.bytes_eq (c : KeyValueConfig) :
    c.fingerprintFields.bytes = Text.utf8 BackendKind.keyValue.name ++
      [("db", [String.ofList (natText c.db)]), ("password", [c.password.expose]), ("url", [c.url])].flatMap
        FingerprintFields.fieldBytes := by
  have fields : c.fingerprintFields.fields =
      [("url", [c.url]), ("password", [c.password.expose]), ("db", [String.ofList (natText c.db)])] := rfl
  have sorted : c.fingerprintFields.fields.mergeSort FingerprintFields.fieldLe =
      [("db", [String.ofList (natText c.db)]), ("password", [c.password.expose]), ("url", [c.url])] := by
    rw [fields]
    simp [List.mergeSort, List.MergeSort.Internal.splitInTwo, FingerprintFields.fieldLe, FingerprintFields.textLe]
  rw [FingerprintFields.bytes, sorted]
  rfl

theorem KeyValueConfig.fingerprint_eq (c : KeyValueConfig) : BackendConfig.fingerprint c =
    ⟨Sha256.digest (Text.utf8 BackendKind.keyValue.name ++
      [("db", [String.ofList (natText c.db)]), ("password", [c.password.expose]), ("url", [c.url])].flatMap
        FingerprintFields.fieldBytes)⟩ :=
  c.bytes_eq ▸ rfl

namespace Vault

/-- Passwords with one more character. -/
def longer : Resealing where
  replace s := if s = "" then "" else s ++ "!"
  injective := by
    intro a b same
    dsimp only at same
    split at same <;> split at same <;> simp_all
  replace_empty := rfl

def config (password : String) : KeyValueConfig := ⟨"kv:6379", ⟨password⟩, 0⟩

def configs : List StoreConfig := [.keyValue (config "red"), .keyValue (config "blue")]

theorem before_of_differ {a b : KeyValueConfig}
    (differ : Sha256.digest a.fingerprintFields.bytes ≠ Sha256.digest b.fingerprintFields.bytes) :
    ∀ x ∈ [StoreConfig.keyValue a, .keyValue b], ∀ y ∈ [StoreConfig.keyValue a, .keyValue b],
      Sha256.digest x.fingerprintFields.bytes = Sha256.digest y.fingerprintFields.bytes →
        x.fingerprintFields.bytes = y.fingerprintFields.bytes := by
  simp only [List.forall_mem_cons, StoreConfig.fingerprintFields]
  simp [differ, differ.symm]

theorem apart : longer.Apart configs where
  measured := by decide
  before := by
    refine before_of_differ ?_
    rw [KeyValueConfig.bytes_eq, KeyValueConfig.bytes_eq]
    decide +kernel
  after := by
    have differ : Sha256.digest ((config "red").reseal longer).fingerprintFields.bytes ≠
        Sha256.digest ((config "blue").reseal longer).fingerprintFields.bytes := by
      rw [KeyValueConfig.bytes_eq, KeyValueConfig.bytes_eq]
      decide +kernel
    intro x hx y hy
    exact before_of_differ differ (x.reseal longer) (List.mem_map_of_mem hx) (y.reseal longer)
      (List.mem_map_of_mem hy)

def cache : Cache KeyValueConfig Nat := ⟨.keyValue, .default, .ofInsertion, [], [], 0, .zero, [], []⟩

theorem new : Cache.ofOptions .keyValue .default .ofInsertion = .ok cache := rfl

/-- Each of two configurations is acquired and dialed, then the first is acquired once more. -/
def moves (first second : KeyValueConfig) : List (Move KeyValueConfig Nat) :=
  [.start (.acquire first), .step 0, .step 0, .step 0, .step 0, .step 0, .step 0, .reply 0 .success, .step 0, .step 0,
   .start (.acquire second), .step 1, .step 1, .step 1, .step 1, .step 1, .step 1, .reply 1 .success, .step 1, .step 1,
   .start (.acquire first), .step 2, .step 2]

theorem possible : (cache.replay (moves (config "red") (config "blue"))).any (fun x => x.2.stats.hits = 1) = true := by
  simp only [moves, Cache.replay, Cache.move, Cache.start, Phase.ofCall, Target.ofConfig, KeyValueConfig.fingerprint_eq]
  decide +kernel

theorem alike_moves {L : Likeness KeyValueConfig} {a a' b b' : KeyValueConfig} (first : L.Config a a')
    (second : L.Config b b') : List.Forall₂ (Move.Alike L) (moves a b) (moves a' b') := by
  unfold moves
  repeat' constructor
  all_goals assumption

/-- With longer passwords the cache does the same: it dials both configurations and lends the first handle again. -/
theorem longer_unseen : ∃ apart : longer.Apart configs, longer.Unseen apart ∧
    ∃ x x', cache.replay (moves (config "red") (config "blue")) = some x ∧
      cache.replay (moves (config "red!") (config "blue!")) = some x' ∧
      x.2.Alike (StoreConfig.Part.keyValue.likeness apart) x'.2 ∧ x.2.stats.hits = 1 := by
  have unseen := Resealing.unseen apart
  have red : (StoreConfig.Part.keyValue.likeness apart).Config (config "red") (config "red!") :=
    ⟨List.mem_cons_self, rfl⟩
  have blue : (StoreConfig.Part.keyValue.likeness apart).Config (config "blue") (config "blue!") :=
    ⟨List.mem_cons_of_mem _ List.mem_cons_self, rfl⟩
  have ran := unseen.caches _ new (alike_moves red blue)
  have hits := possible
  refine ⟨apart, unseen, ?_⟩
  generalize cache.replay (moves (config "red") (config "blue")) = x,
    cache.replay (moves (config "red!") (config "blue!")) = x' at ran hits ⊢
  cases ran with
  | none => cases hits
  | some ran => exact ⟨_, _, rfl, rfl, ran.2, of_decide_eq_true hits⟩

end Vault

end StoreAccess
