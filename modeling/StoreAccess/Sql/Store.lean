import StoreAccess.Bind.Binder
import StoreAccess.Cache.Timeline
import StoreAccess.Sql.Call

/-! A store over relational databases: calls go to cached handles, and what comes back is bound to the
    caller's targets. -/

namespace StoreAccess

/-- What a client of relational databases does: about a dial, a probe or a close, or about a call on a
    handle. -/
structure SqlClient (σ : Type) where
  conduct : σ → Option SqlCall → Request RelationalConfig → σ × Conduct RelationalConfig SqlAnswer

/-- A client at work, and which call each task has brought to it. -/
structure SqlDesk (σ : Type) where
  client : σ
  calls : List (Nat × SqlCall)

/-- The client as the cache sees it. -/
def SqlClient.atDesk {σ : Type} (client : SqlClient σ) :
    Client RelationalConfig SqlAnswer (SqlDesk σ) where
  conduct desk i request :=
    let (s, conduct) := client.conduct desk.client (desk.calls.lookup i) request
    ({ desk with client := s }, conduct)

/-- Why a store gives no result. -/
inductive StoreFault where
  | error (e : Error)
  /-- The caller is aborted: there is no error value. -/
  | aborted
  deriving DecidableEq, Repr

/-- What a fault of binding is to the caller of a store. -/
def ResultFault.toStoreFault : ResultFault → StoreFault
  | notFound => .error .notFound
  | row (.refused e) => .error (.bind e)
  | row .brokenPattern => .aborted

structure RelationalStore (σ : Type) where
  timeline : Timeline RelationalConfig SqlAnswer (SqlDesk σ)
  binder : BinderOptions

namespace RelationalStore

variable {σ α : Type}

/-- A store that binds with the default options. -/
def ofOptions (client : σ) (options : CacheOptions) (order : EntryOrder := .ofInsertion) :
    Except Error (RelationalStore σ) :=
  (Cache.ofOptions .relational options order).map fun c => ⟨.ofCache c ⟨client, []⟩, .default⟩

def withBinder (s : RelationalStore σ) (binder : BinderOptions) : RelationalStore σ :=
  { s with binder := binder }

def log (s : RelationalStore σ) (e : LogEvent) : RelationalStore σ :=
  { s with timeline := s.timeline.log e }

/-- Brings a call to the handle of a configuration. -/
def run (s : RelationalStore σ) (client : SqlClient σ) (config : RelationalConfig) (call : SqlCall) :
    RelationalStore σ × Except StoreFault SqlAnswer :=
  let w := (s.timeline.log (call.notice config))
  let desk := { w.client with calls := (w.cache.tasks.length, call) :: w.client.calls }
  let (w, answer) := { w with client := desk }.call client.atDesk (.withConnection config)
  ({ s with timeline := w }, match answer with
    | some (.ran (.ok a)) => .ok a
    | some (.ran (.error e)) => .error (.error e)
    | _ => .error .aborted)

def query (s : RelationalStore σ) (client : SqlClient σ) (config : RelationalConfig) (sql : String)
    (params : List Value) : RelationalStore σ × Except StoreFault Table :=
  (s.run client config (.query sql params)).map id (Except.map SqlAnswer.rows)

def execute (s : RelationalStore σ) (client : SqlClient σ) (config : RelationalConfig) (sql : String)
    (params : List Value) : RelationalStore σ × Except StoreFault ExecOutcome :=
  (s.run client config (.execute sql params)).map id (Except.map SqlAnswer.changes)

/-- Runs a statement that takes no parameters and whose outcome does not matter. -/
def executeStatement (s : RelationalStore σ) (client : SqlClient σ) (config : RelationalConfig)
    (sql : String) : RelationalStore σ × Except StoreFault Unit :=
  (s.execute client config sql []).map id (Except.map fun _ => ())

/-- Runs a statement once for each list of parameters, in one transaction. Without any there is nothing
    to do. -/
def executeInTransaction (s : RelationalStore σ) (client : SqlClient σ) (config : RelationalConfig)
    (sql : String) (batches : List (List Value)) :
    RelationalStore σ × Except StoreFault (List ExecOutcome) :=
  if batches.isEmpty then (s, .ok [])
  else (s.run client config (.executeBatch sql batches)).map id (Except.map SqlAnswer.eachChange)

/-- Binds the rows that a query has yielded. -/
def bindWith {β : Type} (bind : BinderOptions → Table → Binding β)
    (queried : RelationalStore σ × Except StoreFault Table) : RelationalStore σ × Except StoreFault β :=
  match queried with
  | (s, .error e) => (s, .error e)
  | (s, .ok table) =>
    let b := bind s.binder table
    (b.log.foldl log s, match b.outcome with
      | .ok () => .ok b.target
      | .error e => .error e.toStoreFault)

/-- Binds the first row of a query to a target. -/
def queryOne (s : RelationalStore σ) (client : SqlClient σ) (config : RelationalConfig) (t : RowTarget α)
    (sql : String) (params : List Value) : RelationalStore σ × Except StoreFault α :=
  bindWith (Binder.bindOne t) (s.query client config sql params)

/-- Binds each row of a query to a target of its own. -/
def queryAll (s : RelationalStore σ) (client : SqlClient σ) (config : RelationalConfig) (t : RowTarget α)
    (sql : String) (params : List Value) : RelationalStore σ × Except StoreFault (List α) :=
  (bindWith (Binder.collect t) (s.query client config sql params)).map id (Except.map Sequence.items)

/-- Binds each row of a query to a map. -/
def queryMap (s : RelationalStore σ) (client : SqlClient σ) (config : RelationalConfig) (sql : String)
    (params : List Value) : RelationalStore σ × Except StoreFault (List (Dict Value)) :=
  s.queryAll client config .map sql params

/-- Removes the handle of a configuration: whether there was one. -/
def invalidate (s : RelationalStore σ) (client : SqlClient σ) (config : RelationalConfig) :
    RelationalStore σ × Bool :=
  let (w, answer) := s.timeline.call client.atDesk (.invalidate (BackendConfig.fingerprint config))
  ({ s with timeline := w }, match answer with
    | some (.removed found) => found
    | _ => false)

/-- The call that a task has brought. -/
def callOf? (s : RelationalStore σ) (task : Nat) : Option SqlCall :=
  s.timeline.client.calls.lookup task

end RelationalStore

end StoreAccess
