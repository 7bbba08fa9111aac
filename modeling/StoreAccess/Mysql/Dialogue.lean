import StoreAccess.Log
import StoreAccess.Mysql.Fault
import StoreAccess.Mysql.ResultSet
import StoreAccess.Mysql.Session
import StoreAccess.Sql.Call

/-! Dialogues with a database server. A dialogue orders one thing after another, and goes on by what comes
    back; its caller may leave it wherever it waits. -/

namespace StoreAccess
namespace Mysql

inductive Order where
  /-- A connection, on which the orders after it are carried out. -/
  | connection
  | ping
  /-- Prepares a statement and runs it; it yields columns. -/
  | query (sql : String) (params : List Datum)
  /-- The rows of the statement that was run last. -/
  | rows
  /-- Prepares a statement and runs it; its rows are of no interest. -/
  | execute (sql : String) (params : List Datum)
  /-- A connection, and the start of a transaction on it. -/
  | startTransaction
  | rollback
  | commit
  | disconnect
  deriving DecidableEq, Repr

/-- What an order yields. -/
@[reducible]
def Order.Yield : Order → Type
  | .query .. => List ColumnInfo
  | .rows => List (List Datum)
  | .execute .. => ExecOutcome
  | .connection | .ping | .startTransaction | .rollback | .commit | .disconnect => Unit

inductive Dialogue (α : Type) where
  | done (a : α)
  | order (o : Order) (next : Except ClientFault o.Yield → Dialogue α)
  | log (e : LogEvent) (rest : Dialogue α)

namespace Dialogue

variable {α β σ : Type}

/-- Goes on with what a dialogue ends with. -/
def andThen (d : Dialogue α) (f : α → Dialogue β) : Dialogue β :=
  match d with
  | done a => f a
  | order o next => order o fun r => (next r).andThen f
  | log e rest => log e (rest.andThen f)

/-- Orders something; the error of a fault says what was going on. -/
def require (context : String) (o : Order) (next : o.Yield → Dialogue (Except Error α)) :
    Dialogue (Except Error α) :=
  order o fun
    | .ok y => next y
    | .error f => done (.error (f.during context))

/-- What one side of dialogues does about an order. -/
structure Server (σ : Type) where
  carryOut : σ → (o : Order) → σ × Except ClientFault o.Yield

/-- Holds a dialogue to its end: what it ends with, and the events on the way. -/
def hold (server : Server σ) (s : σ) : Dialogue α → σ × α × List LogEvent
  | done a => (s, a, [])
  | order o next =>
    let (s, r) := server.carryOut s o
    (next r).hold server s
  | log e rest =>
    let (s, a, events) := rest.hold server s
    (s, a, e :: events)

/-! ### What a handle is used for -/

def ping : Dialogue (Except Error Unit) :=
  require "failed to get connection" .connection fun _ =>
  require "ping failed" .ping fun _ => done (.ok ())

def close : Dialogue (Except Error Unit) :=
  require "failed to close pool" .disconnect fun _ => done (.ok ())

def query (sql : String) (params : List Value) : Dialogue (Except Error Table) :=
  require "failed to get connection" .connection fun _ =>
  require "failed to execute query" (.query sql (params.map Datum.ofValue)) fun columns =>
  require "failed to read rows" .rows fun rows => done (.ok (ResultSet.table columns rows))

def execute (sql : String) (params : List Value) : Dialogue (Except Error ExecOutcome) :=
  require "failed to get connection" .connection fun _ =>
  require "failed to execute statement" (.execute sql (params.map Datum.ofValue)) fun outcome =>
  done (.ok outcome)

/-- Rolls a transaction back and ends with an error, whatever comes of the rollback. -/
def giveUp (e : Error) : Dialogue (Except Error α) :=
  order .rollback fun
    | .ok _ => done (.error e)
    | .error f => log ⟨.warn, "rollback failed", [("error", f.text)]⟩ (done (.error e))

/-- Runs a statement once for each list of parameters within a transaction, then commits it. The first
    that fails is the last that is run. -/
def executeEach (sql : String) :
    List (List Value) → (outcomes : List ExecOutcome) → Dialogue (Except Error (List ExecOutcome))
  | [], outcomes => require "failed to commit transaction" .commit fun _ => done (.ok outcomes)
  | params :: rest, outcomes => order (.execute sql (params.map Datum.ofValue)) fun
    | .ok outcome => executeEach sql rest (outcomes ++ [outcome])
    | .error f => giveUp (f.during "failed to execute in transaction")

def executeBatch (sql : String) (batches : List (List Value)) :
    Dialogue (Except Error (List ExecOutcome)) :=
  require "failed to begin transaction" .startTransaction fun _ => executeEach sql batches []

/-- The dialogue of a call. -/
def ofCall : SqlCall → Dialogue (Except Error SqlAnswer)
  | .query sql params => (query sql params).andThen fun r => done (r.map .table)
  | .execute sql params => (execute sql params).andThen fun r => done (r.map .outcome)
  | .executeBatch sql batches => (executeBatch sql batches).andThen fun r => done (r.map .outcomes)

/-- Connects for the first time, so that a server out of reach is found out at once. -/
def dial (config : RelationalConfig) : Dialogue (Except Error Unit) :=
  ping.andThen fun
    | .ok _ => log ⟨.debug, "mysql pool ready", [("target_db", config.displayUrl)]⟩ (done (.ok ()))
    | .error e =>
      done (.error (.dial .relational ("failed to connect to " ++ config.displayUrl) (some e.message)))

/-- Sets up a pool, which does not take all bounds, and connects for the first time. -/
def setUp (takes : Nat → Nat → Bool) (config : RelationalConfig) (pool : PoolSettings) : Dialogue (Except Error Unit) :=
  if takes 0 pool.maxOpen then dial config
  else done (.error (.configuration ("invalid pool size: max_open=" ++ String.ofList (natText pool.maxOpen))))

theorem setUp_boundsInOrder (config : RelationalConfig) (pool : PoolSettings) :
    setUp boundsInOrder config pool = dial config :=
  if_pos (decide_eq_true (Nat.zero_le _))

end Dialogue

end Mysql
end StoreAccess
