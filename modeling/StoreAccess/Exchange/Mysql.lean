import StoreAccess.Exchange.Report
import StoreAccess.Exchange.Tables
import StoreAccess.Mysql.Rehearsal

/-! Scripts of database servers, and what such a server sees, as exchanged data. -/

namespace StoreAccess
namespace Mysql

namespace Datum

def tagged : Datum → Json
  | null => .null
  | bytes content => .tagged "text" (.str (Text.ofUtf8 content))
  | int n => .tagged "int" (.decimal n)
  | uint n => .tagged "int" (.decimal n)
  | float x => .tagged "float" (x.tagged 8)
  | double x => .tagged "double" (x.tagged 16)
  | d@(date ..) | d@(time ..) => .ofText? d.text?

/-- The datum of a column. Whether an integer has a sign, and how precise a floating-point number is, the
    column tells. -/
def ofTagged? (column : ColumnInfo) : Json → Option Datum
  | .null => some null
  | .obj [("int", j)] =>
    j.decimal?.map fun n => if column.isUnsigned ∧ 0 ≤ n then uint n.toNat else int n
  | .obj [("float", j)] =>
    j.literal?.map fun x => if column.code = 4 then float (x.convert .single) else double x
  | .obj [("date", j)] => do
    match ← j.each? Json.nat? with
    | [year, month, day, hour, minute, second, micro] =>
      some (date year month day hour minute second micro)
    | _ => none
  | .obj [("time", j)] => do
    match ← j.each? Json.nat? with
    | [negative, days, hours, minutes, seconds, micros] =>
      some (time (negative ≠ 0) days hours minutes seconds micros)
    | _ => none
  | .obj [("text", .str s)] => some (bytes (Text.utf8 s))
  | .obj [("bytes", j)] => (j.each? Json.nat?).map fun ns => bytes (ns.map Nat.toUInt8)
  | _ => none

end Datum

def ServerFault.ofTriple? : Json → Option ServerFault
  | .arr [code, state, message] => do some ⟨← code.nat?, ← state.text?, ← message.text?⟩
  | _ => none

def ColumnInfo.ofTriple? : Json → Option ColumnInfo
  | .arr [name, code, flags] => do some ⟨← name.text?, ← code.nat?, ← flags.nat?⟩
  | _ => none

namespace ScriptedResult

/-- A row of a script: a fault, or data for the columns in order. -/
def rowOfData? (columns : List ColumnInfo) : Json → Option (Except ServerFault (List Datum))
  | .obj [("err", f)] => (ServerFault.ofTriple? f).map .error
  | .arr xs => ((columns.zip xs).mapM fun p => Datum.ofTagged? p.1 p.2).map .ok
  | _ => none

/-- The outcome of two counters. No row has the number zero. -/
def outcomeOfCounters? : Json → Option ScriptedResult
  | .arr [affected, last] => do
    let last := (← last.decimal?).toNat
    some (outcome ⟨(← affected.decimal?).toNat, if last = 0 then none else some last⟩)
  | _ => none

def ofData? (j : Json) : Option ScriptedResult := do
  match ← j.optional? "err" ServerFault.ofTriple?, j.given? "ok" with
  | some f, _ => some (failure f)
  | none, some counters => outcomeOfCounters? counters
  | none, none =>
    let columns ← j.required? "columns" (Json.each? ColumnInfo.ofTriple?)
    some (rows columns (← j.required? "rows" (Json.each? (rowOfData? columns))))

end ScriptedResult

namespace ScriptedServer

def ofData? (options : ClientOptions) (j : Json) : Option ScriptedServer := do
  let results ← j.withDefault? "answers" [] (Json.each? ScriptedResult.ofData?)
  let faults ← j.withDefault? "fail" [] (Json.pairs? Json.text? ServerFault.ofTriple?)
  some (ofScript options results faults.reverse (← j.optional? "auth_error" ServerFault.ofTriple?)
    (j.isSet "refuse"))

end ScriptedServer

def Login.report (l : Login) : Json :=
  .obj [("user", .str l.user), ("db", .ofText? l.database), ("password_sent", .bool l.passwordSent)]

def Sent.report : Sent → Json
  | execution sql params => .arr [.str "execute", .str sql, .arr (params.map Datum.tagged)]
  | rejected sql => .arr [.str "rejected", .str sql]
  | statement sql => .arr [.str "statement", .str sql]
  | ping => .arr [.str "ping"]

def ClientOptions.report (o : ClientOptions) : Json :=
  .obj [("host", .str o.host), ("port", .int o.port), ("constraints", .arr [.int o.minOpen, .int o.maxOpen]),
    ("inactive_ttl", o.idleLifetime.report), ("abs_ttl", o.maxLifetime.report)]

end Mysql
end StoreAccess
