/-! Log events: what the library tells an operator, in order. -/

namespace StoreAccess

inductive LogLevel where
  | debug
  | info
  | warn
  deriving DecidableEq, Repr

namespace LogLevel

def name : LogLevel → String
  | debug => "DEBUG"
  | info => "INFO"
  | warn => "WARN"

end LogLevel

structure LogEvent where
  level : LogLevel
  message : String
  fields : List (String × String)
  deriving DecidableEq, Repr

end StoreAccess
