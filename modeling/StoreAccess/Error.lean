import StoreAccess.Backend.Kind
import StoreAccess.Text.Quoted

/-! What can go wrong, by cause, and the wording of each. Errors of the connection make a cached handle
    unusable and are worth one more try; errors in the shape of the data are not. -/

namespace StoreAccess

/-- Why a column or field could not be bound. -/
inductive BindError where
  | parse (target value expected : String)
  | overflow (target value kind : String)
  | required (field : String) (absent : Bool)
  | unsupported (field kind : String)
  deriving DecidableEq, Repr

namespace BindError

/-- The column or field the error is about. -/
def target : BindError → String
  | parse target .. | overflow target .. => target
  | required field _ | unsupported field _ => field

def isOverflow : BindError → Bool
  | overflow .. => true
  | _ => false

def message : BindError → String
  | parse target value expected =>
    "cannot parse " ++ Text.quote value ++ " for `" ++ target ++ "` as " ++ expected
  | overflow target value kind =>
    "value " ++ Text.quote value ++ " overflows " ++ kind ++ " for `" ++ target ++ "`"
  | required field absent =>
    "field `" ++ field ++ "` must not be empty ("
      ++ (if absent then "column absent" else "column empty") ++ ")"
  | unsupported field kind => "unsupported field kind " ++ kind ++ " for `" ++ field ++ "`"

end BindError

/-- What a caller can do about an error. -/
inductive ErrorCategory where
  | dial
  | operation
  | timeout
  | notFound
  | bind
  | configuration
  deriving DecidableEq, Repr

namespace ErrorCategory

/-- The handle is to be given up and the call tried once more. -/
def isConnection : ErrorCategory → Bool
  | dial | operation | timeout => true
  | notFound | bind | configuration => false

def name : ErrorCategory → String
  | dial => "dial"
  | operation => "operation"
  | timeout => "timeout"
  | notFound => "not_found"
  | bind => "bind"
  | configuration => "configuration"

end ErrorCategory

/-- An error; `source` is the text of the error that caused it. -/
inductive Error where
  | dial (backend : BackendKind) (text : String) (source : Option String)
  | operation (text : String) (source : Option String)
  | timeout (text : String)
  | notFound
  | bind (error : BindError)
  | configuration (text : String)
  deriving DecidableEq, Repr

namespace Error

def category : Error → ErrorCategory
  | dial .. => .dial
  | operation .. => .operation
  | timeout _ => .timeout
  | notFound => .notFound
  | bind _ => .bind
  | configuration _ => .configuration

def isConnection (e : Error) : Bool :=
  e.category.isConnection

def isNotFound : Error → Bool
  | notFound => true
  | _ => false

def message : Error → String
  | dial backend text _ => backend.name ++ " dial error: " ++ text
  | operation text _ => "operation error: " ++ text
  | timeout text => "timeout: " ++ text
  | notFound => "not found"
  | bind error => error.message
  | configuration text => "configuration error: " ++ text

/-- The texts of the errors behind this one. -/
def sources : Error → List String
  | dial _ _ source | operation _ source => source.toList
  | _ => []

end Error

end StoreAccess
