import StoreAccess.Exchange.Described
import StoreAccess.Sql.Rehearsal

/-! Tables and calls on relational databases as exchanged data. -/

namespace StoreAccess

/-- The text under a column, or null. -/
def Json.cellText? : Json → Option (Option String)
  | .null => some none
  | .str s => some (some s)
  | _ => none

/-- A row as a list of columns with their texts. -/
def Row.ofPairs? (j : Json) : Option Row :=
  (j.pairs? Json.text? Json.cellText?).map ofList

def Column.ofPair? : Json → Option Column
  | .arr [name, typeName] => do some ⟨← name.text?, ← typeName.text?⟩
  | _ => none

namespace Table

def ofData? (j : Json) : Option Table := do
  some ⟨← j.required? "columns" (Json.each? Column.ofPair?),
    ← j.required? "rows" (Json.each? Row.ofPairs?)⟩

/-- Each row as the texts under the columns, in order. -/
def report (t : Table) : Json :=
  .obj [("columns", .arr (t.columns.map fun c => .arr [.str c.name, .str c.typeName])),
    ("rows", .arr (t.rows.map fun r => .arr (t.columns.map fun c => .ofText? (r.get? c.name))))]

end Table

namespace ExecOutcome

def report (o : ExecOutcome) : Json :=
  .arr [.decimal o.rowsAffected, o.lastInsertId.elim .null fun n : Nat => .decimal n]

def ofPair? : Json → Option ExecOutcome
  | .arr [affected, .null] => affected.nat?.map fun n => ⟨n, none⟩
  | .arr [affected, last] => do some ⟨← affected.nat?, some (← last.nat?)⟩
  | _ => none

end ExecOutcome

def reportParams (params : List Value) : Json := .arr (params.map Value.tagged)

/-- A call on a handle. -/
def SqlCall.report (handle : Nat) : SqlCall → Json
  | query sql params => .arr [.str "query", .int handle, .str sql, reportParams params]
  | execute sql params => .arr [.str "execute", .int handle, .str sql, reportParams params]
  | executeBatch sql batches =>
    .arr [.str "execute_batch", .int handle, .str sql, .arr (batches.map reportParams)]

/-- A map with its keys in ascending order. -/
def Dict.report (d : Dict Value) : Json := .obj (d.sorted.map fun p => (p.1, p.2.tagged))

namespace ScriptedAnswer

def ofData? (j : Json) : Option ScriptedAnswer := do
  some ⟨← j.withDefault? "sleep_ms" 0 Json.nat?, ← j.optional? "error" Error.ofDescription?,
    ← j.withDefault? "result" .empty Table.ofData?, ← j.withDefault? "exec" .nothing ExecOutcome.ofPair?,
    ← j.withDefault? "execs" [] (Json.each? ExecOutcome.ofPair?)⟩

end ScriptedAnswer

namespace SqlScript

/-- The script of dials that fail, or give handles with the answers they have. -/
def ofData? (j : Json) : Option SqlScript := do
  let dials ← j.each? fun d => do
    match ← d.optional? "error" Error.ofDescription? with
    | some e => some (.error e)
    | none => (d.withDefault? "answers" [] (Json.each? ScriptedAnswer.ofData?)).map .ok
  some ⟨dials, []⟩

end SqlScript

namespace RelationalStore

variable {σ : Type}

/-- What others have seen of a store's work since some point: dials, calls and closes. -/
def reportSince (s : RelationalStore σ) (seen : Nat) : Json :=
  .arr ((s.timeline.trace.drop seen).filterMap fun e =>
    match e.2 with
    | .request _ (.dial c _) => some (.arr [.str "dial", .str c.displayUrl])
    | .request i (.operate l) => (s.callOf? i).map (SqlCall.report l.handle)
    | .request _ (.close l) => some (.arr [.str "close", .int l.handle])
    | .request _ (.ping _) | .log _ => none)

end RelationalStore

end StoreAccess
