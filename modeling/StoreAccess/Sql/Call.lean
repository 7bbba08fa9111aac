import StoreAccess.Backend.Relational
import StoreAccess.Log
import StoreAccess.Tabular.Table
import StoreAccess.Value

/-! What a relational database is asked to do, and what it answers. -/

namespace StoreAccess

/-- What came of a statement that changes data. -/
structure ExecOutcome where
  rowsAffected : Nat
  /-- The last number that the database gave to a row by itself, if it tells one. -/
  lastInsertId : Option Nat
  deriving DecidableEq, Repr

namespace ExecOutcome

def nothing : ExecOutcome := ⟨0, none⟩

end ExecOutcome

inductive SqlCall where
  | query (sql : String) (params : List Value)
  | execute (sql : String) (params : List Value)
  /-- Runs a statement once for each list of parameters, in one transaction. -/
  | executeBatch (sql : String) (batches : List (List Value))
  deriving DecidableEq, Repr

inductive SqlAnswer where
  | table (t : Table)
  | outcome (o : ExecOutcome)
  | outcomes (list : List ExecOutcome)
  deriving DecidableEq, Repr

namespace SqlCall

/-- The event that announces a call. -/
def notice (config : RelationalConfig) (call : SqlCall) : LogEvent :=
  let target := ("target_db", config.displayUrl)
  let count (n : Nat) := String.ofList (natText n)
  match call with
  | query sql params =>
    ⟨.debug, "query", [target, ("sql", sql), ("params", count params.length)]⟩
  | execute sql params =>
    ⟨.debug, "execute", [target, ("sql", sql), ("params", count params.length)]⟩
  | executeBatch sql batches =>
    ⟨.debug, "transaction", [target, ("sql", sql), ("batches", count batches.length)]⟩

end SqlCall

namespace SqlAnswer

/-- The rows in an answer. The outcome of a statement has none. -/
def rows : SqlAnswer → Table
  | table t => t
  | outcome _ | outcomes _ => .empty

/-- The outcome in an answer. Rows change nothing. -/
def changes : SqlAnswer → ExecOutcome
  | outcome o => o
  | table _ | outcomes _ => .nothing

/-- The outcomes in an answer, one for each list of parameters. -/
def eachChange : SqlAnswer → List ExecOutcome
  | outcomes list => list
  | table _ | outcome _ => []

end SqlAnswer

end StoreAccess
