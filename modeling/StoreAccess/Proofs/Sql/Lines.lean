import Mathlib.Data.List.Forall2
import StoreAccess.Proofs.Cache.Deadlines
import StoreAccess.Proofs.Cache.Verdicts
import StoreAccess.Proofs.Cache.Visits
import StoreAccess.Proofs.Mysql.Transcripts

/-! Stores whose client talks to a database server. Each request is one talk, which comes to its end in time or is
    overdue, so every call through the store comes to its answer; and what the call has heard is what its talks came
    to, one after another. -/

namespace StoreAccess

variable {σ β : Type} {server : Mysql.TimedServer σ} {options : CacheOptions} {call : SqlCall}
  {call? : Option SqlCall} {request : Request RelationalConfig} {i : Nat}
  {heard : List (Request RelationalConfig × Reply SqlAnswer)}

namespace Mysql

/-! ### One request -/

/-- What is said about a request, by the call that is known for it, and what that comes to. -/
inductive Said : Option SqlCall → Request RelationalConfig → List Exchange → Reply SqlAnswer → Prop
  | operated {call : SqlCall} {l : Lease} {said : List Exchange} {result : Option (Except Error SqlAnswer)}
      (path : (Dialogue.ofCall call).Path said result) : Said (some call) (.operate l) said (replyOf .value result)
  | plain {call? : Option SqlCall} {request : Request RelationalConfig} {said : List Exchange} {r : Reply SqlAnswer}
      (idle : request.operates? = none) (plain : ∀ x ∈ said, x.order.isPlain = true) : Said call? request said r

/-- A talk was held about a request that was heard of, and came to its reply. -/
structure Tells (call : SqlCall) (talk : Talk) (x : Request RelationalConfig × Reply SqlAnswer) : Prop where
  request : talk.request = x.1
  said : Said (some call) x.1 talk.exchanges x.2

section
variable {desk desk' : SqlDesk (Line σ)}

end

end Mysql

/-! ### Stores -/

namespace RelationalStore

variable {s : RelationalStore (Mysql.Line σ)}

/-- The stores that come of a new one by calls, one after another. On its cache others may make any call; one that
    takes all entries finds no more than can be taken in the turns of a run. -/
inductive Reached (server : Mysql.TimedServer σ) (options : CacheOptions) : RelationalStore (Mysql.Line σ) → Prop
  | new {line : Mysql.Line σ} {order : EntryOrder} {s : RelationalStore (Mysql.Line σ)}
      (new : RelationalStore.ofOptions line options order = .ok s) : Reached server options s
  | run {s : RelationalStore (Mysql.Line σ)} (before : Reached server options s) (config : RelationalConfig)
      (call : SqlCall) : Reached server options (s.run (Mysql.client server options) config call).1
  | cache {s : RelationalStore (Mysql.Line σ)} (before : Reached server options s) {c : Call RelationalConfig}
      (idle : ∀ config, c ≠ .withConnection config)
      (few : (Phase.ofCall c : Phase RelationalConfig SqlAnswer).takesAll = true →
        s.timeline.cache.entries.length ≤ 2 ^ 54) :
      Reached server options { s with timeline := (s.timeline.call (Mysql.client server options).atDesk c).1 }
  | log {s : RelationalStore (Mysql.Line σ)} (before : Reached server options s) (e : LogEvent) :
      Reached server options (s.log e)
  | withBinder {s : RelationalStore (Mysql.Line σ)} (before : Reached server options s) (binder : BinderOptions) :
      Reached server options (s.withBinder binder)

/-! Every operation of a store leads to another such store. -/

namespace Reached

variable (reached : s.Reached server options) (config : RelationalConfig) (sql : String)
include reached

theorem query (params : List Value) :
    (s.query (Mysql.client server options) config sql params).1.Reached server options :=
  reached.run config (.query sql params)

theorem execute (params : List Value) :
    (s.execute (Mysql.client server options) config sql params).1.Reached server options :=
  reached.run config (.execute sql params)

theorem executeStatement :
    (s.executeStatement (Mysql.client server options) config sql).1.Reached server options :=
  reached.execute config sql []

theorem executeInTransaction (batches : List (List Value)) :
    (s.executeInTransaction (Mysql.client server options) config sql batches).1.Reached server options := by
  unfold RelationalStore.executeInTransaction
  split
  · exact reached
  · exact reached.run config (.executeBatch sql batches)

omit reached in
theorem bindWith {γ : Type} (bind : BinderOptions → Table → Binding γ)
    {queried : RelationalStore (Mysql.Line σ) × Except StoreFault Table}
    (reached : queried.1.Reached server options) :
    (RelationalStore.bindWith bind queried).1.Reached server options := by
  obtain ⟨s, result⟩ := queried
  cases result with
  | error e => exact reached
  | ok table =>
    have logged (events : List LogEvent) : (events.foldl RelationalStore.log s).Reached server options :=
      List.foldlRecOn events RelationalStore.log reached fun s reached e _ => reached.log e
    exact logged _

theorem queryOne {α : Type} (t : RowTarget α) (params : List Value) :
    (s.queryOne (Mysql.client server options) config t sql params).1.Reached server options :=
  (reached.query config sql params).bindWith (Binder.bindOne t)

theorem queryAll {α : Type} (t : RowTarget α) (params : List Value) :
    (s.queryAll (Mysql.client server options) config t sql params).1.Reached server options :=
  (reached.query config sql params).bindWith (Binder.collect t)

theorem queryMap (params : List Value) :
    (s.queryMap (Mysql.client server options) config sql params).1.Reached server options :=
  reached.queryAll config sql .map params

theorem invalidate : (s.invalidate (Mysql.client server options) config).1.Reached server options :=
  reached.cache (by simp) fun takes => by cases takes

end Reached

end RelationalStore

end StoreAccess
