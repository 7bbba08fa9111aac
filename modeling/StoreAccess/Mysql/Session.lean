import StoreAccess.Backend.Relational

/-! How a client connects: where to, as whom, with how many connections, and the statements that set the
    variables of each new session. -/

namespace StoreAccess
namespace Mysql

/-- A text as a string literal of a statement: between quotes, with each quote in it doubled. -/
def literal (value : List Char) : List Char :=
  '\'' :: value.flatMap (fun c => if c = '\'' then ['\'', '\''] else [c]) ++ ['\'']

/-- The statement that sets a variable of the session. -/
def setVariable (name value : String) : String :=
  "SET SESSION " ++ name ++ " = " ++ String.ofList (literal value.toList)

/-- Bounds on the number of connections that a pool takes. -/
def boundsInOrder (least most : Nat) : Bool := decide (least ≤ most)

structure ClientOptions where
  host : String
  port : Nat
  user : String
  password : Secret
  database : Option String
  /-- The statements for each new session, in ascending order of the variables. -/
  statements : List String
  minOpen : Nat
  maxOpen : Nat
  /-- How long a connection may be unused. -/
  idleLifetime : Duration
  /-- How long a connection may be used at all. -/
  maxLifetime : Duration
  deriving DecidableEq

namespace ClientOptions

def ofConfig (config : RelationalConfig) (pool : PoolSettings) : ClientOptions where
  host := config.host
  port := config.port
  user := config.user
  password := config.password
  database := if config.database = "" then none else some config.database
  statements := config.params.sorted.map fun p => setVariable p.1 p.2
  minOpen := 0
  maxOpen := pool.maxOpen
  idleLifetime := pool.maxLifetime
  maxLifetime := pool.maxLifetime

end ClientOptions

end Mysql
end StoreAccess
