import StoreAccess.Error
import StoreAccess.Number.IntLiteral

/-! What goes wrong between a client and the database server. -/

namespace StoreAccess
namespace Mysql

/-- An error that the server reports. -/
structure ServerFault where
  code : Nat
  state : String
  message : String
  deriving DecidableEq, Repr

inductive ClientFault where
  | server (f : ServerFault)
  /-- A statement was given another number of parameters than it takes. -/
  | parameters (taken given : Nat)
  /-- The connection is broken. -/
  | connectionClosed
  /-- The client was closed. -/
  | disconnected
  /-- Nothing listens where the client connects to. -/
  | refused
  deriving DecidableEq, Repr

namespace ClientFault

def text : ClientFault → String
  | server f =>
    "Server error: `ERROR " ++ f.state ++ " (" ++ String.ofList (natText f.code) ++ "): " ++ f.message
      ++ "'"
  | parameters taken given =>
    "Driver error: `Statement takes " ++ String.ofList (natText taken) ++ " parameters but "
      ++ String.ofList (natText given) ++ " was supplied.'"
  | connectionClosed => "Driver error: `Connection to the server is closed.'"
  | disconnected => "Driver error: `Pool was disconnected.'"
  | refused => "Input/output error: Input/output error: Connection refused (os error 111)"

/-- The error of an operation in which a fault occurred. -/
def during (context : String) (f : ClientFault) : Error :=
  .operation (context ++ ": " ++ f.text) (some f.text)

end ClientFault

end Mysql
end StoreAccess
