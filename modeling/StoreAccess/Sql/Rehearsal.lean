import StoreAccess.Sql.Store

/-! A client of relational databases that follows a script. -/

namespace StoreAccess

/-- What a scripted handle does about one call: it takes its time, then fails or answers. What it answers
    depends on the kind of call. -/
structure ScriptedAnswer where
  delay : Nat
  error : Option Error
  table : Table
  outcome : ExecOutcome
  outcomes : List ExecOutcome

namespace ScriptedAnswer

/-- The answer where the script has none: nothing found and nothing changed. -/
def nothing : ScriptedAnswer := ⟨0, none, .empty, .nothing, []⟩

def answer (a : ScriptedAnswer) : SqlCall → SqlAnswer
  | .query .. => .table a.table
  | .execute .. => .outcome a.outcome
  | .executeBatch .. => .outcomes a.outcomes

def reply (a : ScriptedAnswer) (call : SqlCall) : Reply SqlAnswer :=
  match a.error with
  | some e => .failure e
  | none => .value (a.answer call)

end ScriptedAnswer

/-- What is left of a script: the outcomes of dials, each an error or the answers of the new handle, and
    the answers of the handles that were dialed, in that order. -/
structure SqlScript where
  dials : List (Except Error (List ScriptedAnswer))
  handles : List (List ScriptedAnswer)

namespace SqlScript

/-- The next answer of a handle. -/
def next (s : SqlScript) (handle : Nat) : ScriptedAnswer :=
  ((s.handles[handle - 1]?).bind List.head?).getD .nothing

def conduct (s : SqlScript) (call : Option SqlCall) :
    Request RelationalConfig → SqlScript × Conduct RelationalConfig SqlAnswer
  | .dial .. =>
    match s.dials with
    | .error e :: rest => ({ s with dials := rest }, ⟨[], 0, some (.failure e)⟩)
    | .ok answers :: rest => (⟨rest, s.handles ++ [answers]⟩, ⟨[], 0, some .success⟩)
    | [] => (⟨[], s.handles ++ [[]]⟩, ⟨[], 0, some .success⟩)
  | .operate l =>
    let a := s.next l.handle
    ({ s with handles := s.handles.modify (l.handle - 1) (List.drop 1) },
      ⟨[], a.delay, call.map a.reply⟩)
  | .close _ | .ping _ => (s, ⟨[], 0, some .success⟩)

def client : SqlClient SqlScript := ⟨conduct⟩

end SqlScript

end StoreAccess
