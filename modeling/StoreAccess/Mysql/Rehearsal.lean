import StoreAccess.Mysql.Dialogue

/-! A database server that follows a script. -/

namespace StoreAccess
namespace Mysql

/-- What a scripted server does about the next statement that is run. -/
inductive ScriptedResult where
  | failure (f : ServerFault)
  | outcome (o : ExecOutcome)
  /-- Columns and rows; a fault in the place of a row ends them. -/
  | rows (columns : List ColumnInfo) (rows : List (Except ServerFault (List Datum)))

namespace ScriptedResult

/-- All rows, unless there is a fault among them. -/
def allRows : List (Except ServerFault (List Datum)) → Except ClientFault (List (List Datum))
  | [] => .ok []
  | .ok row :: rest => (allRows rest).map (row :: ·)
  | .error f :: _ => .error (.server f)

end ScriptedResult

/-- What a server has seen of a login. -/
structure Login where
  user : String
  database : Option String
  passwordSent : Bool
  deriving DecidableEq, Repr

/-- What a server has been sent over a connection. -/
inductive Sent where
  | execution (sql : String) (params : List Datum)
  /-- A statement that it would not prepare. -/
  | rejected (sql : String)
  | statement (sql : String)
  | ping
  deriving DecidableEq, Repr

/-- A scripted server and the one client it has. -/
structure ScriptedServer where
  options : ClientOptions
  results : List ScriptedResult
  /-- The statements that fail, by their texts; the latest entry for a text counts. -/
  faults : List (String × ServerFault)
  /-- What every login fails with. -/
  loginFault : Option ServerFault
  /-- Nothing listens. -/
  refuses : Bool
  /-- The client has a connection that works. -/
  connected : Bool
  /-- The client was closed. -/
  closed : Bool
  /-- The rows of the last statement. -/
  rows : Except ClientFault (List (List Datum))
  login : Option Login
  /-- The statements for new sessions that were sent. -/
  sessionStatements : List String
  sent : List Sent

namespace ScriptedServer

def ofScript (options : ClientOptions) (results : List ScriptedResult)
    (faults : List (String × ServerFault)) (loginFault : Option ServerFault) (refuses : Bool) :
    ScriptedServer :=
  ⟨options, results, faults, loginFault, refuses, false, false, .ok [], none, [], []⟩

/-- Lets a statement fail from now on. -/
def withFault (s : ScriptedServer) (sql : String) (f : ServerFault) : ScriptedServer :=
  { s with faults := (sql, f) :: s.faults }

/-- What becomes of a text that is to be carried out as it stands. -/
def outcomeOf (s : ScriptedServer) (sql : String) : Except ClientFault Unit :=
  match s.faults.lookup sql with
  | some f => .error (.server f)
  | none => .ok ()

def note (s : ScriptedServer) (e : Sent) : ScriptedServer := { s with sent := s.sent ++ [e] }

/-- Runs the statements for a new session, up to the first that fails. -/
def startSession (s : ScriptedServer) : List String → ScriptedServer × Except ClientFault Unit
  | [] => ({ s with connected := true }, .ok ())
  | sql :: rest =>
    let s := { s with sessionStatements := s.sessionStatements ++ [sql] }
    match s.outcomeOf sql with
    | .ok _ => s.startSession rest
    | .error f => (s, .error f)

/-- A connection: the one at hand, or a new one. The statements for a new session are run from the last
    to the first. -/
def connect (s : ScriptedServer) : ScriptedServer × Except ClientFault Unit :=
  if s.closed then (s, .error .disconnected)
  else if s.connected then (s, .ok ())
  else if s.refuses then (s, .error .refused)
  else
    let o := s.options
    let s := { s with login := some ⟨o.user, o.database, !o.password.isEmpty⟩ }
    match s.loginFault with
    | some f => (s, .error (.server f))
    | none => s.startSession o.statements.reverse

/-- Carries out a statement as it stands. -/
def statement (s : ScriptedServer) (sql : String) : ScriptedServer × Except ClientFault Unit :=
  if s.connected then (s.note (.statement sql), s.outcomeOf sql) else (s, .error .connectionClosed)

/-- How many parameters a statement takes. -/
def parameterCount (sql : String) : Nat := sql.toList.count '?'

/-- Takes the next result of the script. -/
def takeResult (s : ScriptedServer) : ScriptedServer × ScriptedResult :=
  ({ s with results := s.results.drop 1 }, s.results.headD (.outcome .nothing))

/-- Prepares a statement and runs it. A wrong number of parameters breaks the connection. -/
def runPrepared (s : ScriptedServer) (sql : String) (params : List Datum) :
    ScriptedServer × Except ClientFault ScriptedResult :=
  if !s.connected then (s, .error .connectionClosed)
  else
    match s.outcomeOf sql with
    | .error f => (s.note (.rejected sql), .error f)
    | .ok _ =>
      if parameterCount sql ≠ params.length then
        ({ s with connected := false }, .error (.parameters (parameterCount sql) params.length))
      else
        match (s.note (.execution sql params)).takeResult with
        | (s, .failure f) => (s, .error (.server f))
        | (s, r) => (s, .ok r)

def query (s : ScriptedServer) (sql : String) (params : List Datum) :
    ScriptedServer × Except ClientFault (List ColumnInfo) :=
  match s.runPrepared sql params with
  | (s, .error f) => (s, .error f)
  | (s, .ok (.rows columns rows)) => ({ s with rows := ScriptedResult.allRows rows }, .ok columns)
  | (s, .ok _) => ({ s with rows := .ok [] }, .ok [])

def execute (s : ScriptedServer) (sql : String) (params : List Datum) :
    ScriptedServer × Except ClientFault ExecOutcome :=
  match s.runPrepared sql params with
  | (s, .error f) => (s, .error f)
  | (s, .ok (.outcome o)) => (s, .ok o)
  | (s, .ok (.rows _ rows)) => (s, (ScriptedResult.allRows rows).map fun _ => .nothing)
  | (s, .ok (.failure f)) => (s, .error (.server f))

def carryOut (s : ScriptedServer) : (o : Order) → ScriptedServer × Except ClientFault o.Yield
  | .connection => s.connect
  | .ping => if s.connected then (s.note .ping, s.outcomeOf "PING") else (s, .error .connectionClosed)
  | .query sql params => s.query sql params
  | .rows => (s, s.rows)
  | .execute sql params => s.execute sql params
  | .startTransaction =>
    match s.connect with
    | (s, .ok _) => s.statement "START TRANSACTION"
    | (s, .error f) => (s, .error f)
  | .rollback => s.statement "ROLLBACK"
  | .commit => s.statement "COMMIT"
  | .disconnect => ({ s with closed := true, connected := false }, s.outcomeOf "CLOSE")

def server : Dialogue.Server ScriptedServer := ⟨carryOut⟩

/-- Holds a dialogue: what the server becomes, what the dialogue ends with, what was sent in it, and the
    events on the way. -/
def hold {α : Type} (s : ScriptedServer) (d : Dialogue α) :
    ScriptedServer × α × List Sent × List LogEvent :=
  let (s, a, events) := d.hold server { s with sent := [] }
  (s, a, s.sent, events)

end ScriptedServer

end Mysql
end StoreAccess
