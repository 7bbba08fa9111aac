import StoreAccess.Declare.Token

/-! Types as a field declaration states them. Of a path only its last segment matters, and of that the
    first argument between angle brackets, if that is a type; all other types are kept as they are
    written. -/

namespace StoreAccess

inductive TypeExpr where
  | path (name : List Char) (argument : Option TypeExpr)
  | other (tokens : List TypeToken)
  deriving Repr

namespace TypeExpr

/-- What a reader takes off the front of the tokens, and what it leaves. -/
abbrev Reader (α : Type) := List TypeToken → Option (α × List TypeToken)

/-- Words that name nothing. -/
def reserved : List String :=
  ["as", "async", "await", "break", "const", "continue", "dyn", "else", "enum", "extern", "false", "fn",
   "for", "if", "impl", "in", "let", "loop", "match", "mod", "move", "mut", "pub", "ref", "return",
   "static", "struct", "trait", "true", "type", "unsafe", "use", "where", "while", "abstract", "become",
   "box", "do", "final", "macro", "override", "priv", "try", "typeof", "unsized", "virtual", "yield",
   "_"]

def isName (cs : List Char) : Bool :=
  !reserved.contains (String.ofList cs)

/-- Takes a given token off the front. -/
def skip? (t : TypeToken) : List TypeToken → Option (List TypeToken)
  | u :: rest => if t = u then some rest else none
  | [] => none

def keyword (s : String) : TypeToken := .word s.toList

def punct (s : String) : TypeToken := .mark s.toList

/-- Takes everything off up to the bracket that closes an open one, and that bracket. -/
def skipClosing? : (depth : Nat) → List TypeToken → Option (List TypeToken × List TypeToken)
  | _, [] => none
  | depth, t :: rest =>
    match t, depth with
    | .closes _, 0 => some ([], rest)
    | .closes _, depth + 1 => (skipClosing? depth rest).map fun (a, b) => (t :: a, b)
    | .opens _, depth => (skipClosing? (depth + 1) rest).map fun (a, b) => (t :: a, b)
    | _, depth => (skipClosing? depth rest).map fun (a, b) => (t :: a, b)

/-- The closing bracket of an opening one. -/
def closing : Char → Char
  | '(' => ')'
  | '[' => ']'
  | c => if c = '\x7b' then '\x7d' else c

/-- Brackets close in the order in which they open. -/
def balanced : (pending : List Char) → List TypeToken → Bool
  | pending, [] => pending.isEmpty
  | pending, .opens c :: rest => balanced (closing c :: pending) rest
  | d :: pending, .closes c :: rest => c = d && balanced pending rest
  | [], .closes _ :: _ => false
  | pending, _ :: rest => balanced pending rest

/-- Takes the names of a binder `for<'a, …>` off the front, if there is one. -/
def skipBinder (ts : List TypeToken) : List TypeToken :=
  match ts with
  | .word ['f', 'o', 'r'] :: .mark ['<'] :: rest => (rest.dropWhile (· ≠ punct ">")).drop 1
  | ts => ts

/-- A bound may begin here. -/
def beginsBound : List TypeToken → Bool
  | .word _ :: _ | .lifetime _ :: _ | .opens '(' :: _ | .mark ['?'] :: _ | .mark [':', ':'] :: _ => true
  | _ => false

mutual

/-- Takes a type off the front. With `plus` it may be a sum of bounds. -/
def readType (plus : Bool) : (fuel : Nat) → Reader TypeExpr
  | 0, _ => none
  | fuel + 1, ts =>
    let whole (rest : List TypeToken) : TypeExpr := .other (ts.take (ts.length - rest.length))
    let asOther (rest : Option (List TypeToken)) : Option (TypeExpr × List TypeToken) :=
      rest.map fun rest => (whole rest, rest)
    match ts with
    | [] => none
    | .opens '(' :: .closes ')' :: rest => some (whole rest, rest)
    | .opens '(' :: rest => do
      let (_, rest) ← readType true fuel rest
      let rest ← (skip? (.closes ')') rest).orElse fun _ => readTypes fuel rest
      some (whole rest, rest)
    | .opens '[' :: rest => do
      let (_, rest) ← readType true fuel rest
      match rest with
      | .closes ']' :: rest => some (whole rest, rest)
      | .mark [';'] :: rest =>
        let (inside, rest) ← skipClosing? 0 rest
        if inside.isEmpty then none else some (whole rest, rest)
      | _ => none
    | .mark ['!'] :: rest => some (whole rest, rest)
    | .mark ['*'] :: .word w :: rest =>
      if w = "const".toList ∨ w = "mut".toList then
        asOther ((readType false fuel rest).map Prod.snd)
      else none
    | .mark ['&'] :: rest =>
      let rest := match rest with
        | .lifetime _ :: rest => rest
        | rest => rest
      let rest := (skip? (keyword "mut") rest).getD rest
      asOther ((readType false fuel rest).map Prod.snd)
    | .lifetime _ :: _ => asOther (readBounds true false fuel ts)
    | .mark ['<'] :: rest => do
      let (_, rest) ← readType true fuel rest
      let rest ← match rest with
        | .word ['a', 's'] :: rest => (readPath fuel rest).map Prod.snd
        | rest => some rest
      let rest ← skip? (punct ">") rest
      let rest ← skip? (punct "::") rest
      readPath fuel rest
    | t :: rest =>
      if t = keyword "_" then some (whole rest, rest)
      else if t = keyword "dyn" ∨ t = keyword "impl" then asOther (readBounds plus false fuel rest)
      else if t = keyword "fn" ∨ t = keyword "unsafe" ∨ t = keyword "extern" then
        asOther (readFunction fuel ts)
      else if t = keyword "for" then
        asOther ((readFunction fuel (skipBinder ts)).orElse fun _ => readBounds plus false fuel ts)
      else do
        let (p, rest) ← readPath fuel ((skip? (punct "::") ts).getD ts)
        match rest with
        | .mark ['!'] :: .opens _ :: more =>
          let (_, rest) ← skipClosing? 0 more
          some (whole rest, rest)
        | .mark ['+'] :: more =>
          if !plus then some (p, rest)
          else if beginsBound more then asOther (readBounds true true fuel more)
          else some (whole more, more)
        | rest => some (p, rest)

/-- Takes the rest of a list of types off the front, from a comma to the closing parenthesis. -/
def readTypes : (fuel : Nat) → List TypeToken → Option (List TypeToken)
  | 0, _ => none
  | fuel + 1, ts => do
    let rest ← skip? (punct ",") ts
    match rest with
    | .closes ')' :: rest => some rest
    | rest =>
      let (_, rest) ← readType true fuel rest
      (skip? (.closes ')') rest).orElse fun _ => readTypes fuel rest

/-- Takes the segments of a path off the front. -/
def readPath : (fuel : Nat) → Reader TypeExpr
  | 0, _ => none
  | fuel + 1, ts =>
    match ts with
    | .word w :: rest =>
      if isName w then do
        let angled := match rest with
          | .mark ['<'] :: rest => some rest
          | .mark [':', ':'] :: .mark ['<'] :: rest => some rest
          | _ => none
        match angled, rest with
        | none, .opens '(' :: _ => (readInputs fuel rest).map fun rest => (.path w none, rest)
        | none, .mark [':', ':'] :: rest => readPath fuel rest
        | none, rest => some (.path w none, rest)
        | some rest, _ => do
          let (argument, rest) ← readArguments true fuel rest
          match rest with
          | .mark [':', ':'] :: rest => readPath fuel rest
          | rest => some (.path w argument, rest)
      else none
    | _ => none

/-- Takes the arguments between angle brackets off the front, and the closing bracket. What is found is
    the first of them, if it is a type. -/
def readArguments (first : Bool) : (fuel : Nat) → Reader (Option TypeExpr)
  | 0, _ => none
  | fuel + 1, ts =>
    match ts with
    | .mark ['>'] :: rest => some (none, rest)
    | ts => do
      let (found, rest) ← readArgument fuel ts
      match rest with
      | .mark ['>'] :: rest => some (if first then found else none, rest)
      | .mark [','] :: rest =>
        let (_, rest) ← readArguments false fuel rest
        some (if first then found else none, rest)
      | _ => none

/-- Takes one argument off the front: a lifetime, a constant, a named one, or a type. -/
def readArgument : (fuel : Nat) → Reader (Option TypeExpr)
  | 0, _ => none
  | fuel + 1, ts =>
    match ts with
    | .lifetime _ :: rest => some (none, rest)
    | .literal _ :: rest => some (none, rest)
    | .mark ['-'] :: .literal _ :: rest => some (none, rest)
    | .word ['t', 'r', 'u', 'e'] :: rest => some (none, rest)
    | .word ['f', 'a', 'l', 's', 'e'] :: rest => some (none, rest)
    | .opens c :: rest =>
      if c = '\x7b' then (skipClosing? 0 rest).map fun (_, rest) => (none, rest)
      else (readType true fuel ts).map fun (t, rest) => (some t, rest)
    | ts => do
      let (t, rest) ← readType true fuel ts
      match rest with
      | .mark ['='] :: rest => (readArgument fuel rest).map fun (_, rest) => (none, rest)
      | .mark [':'] :: rest => (readBounds true true fuel rest).map fun rest => (none, rest)
      | rest => some (some t, rest)

/-- Takes parenthesised inputs and an optional output off the front. -/
def readInputs : (fuel : Nat) → List TypeToken → Option (List TypeToken)
  | 0, _ => none
  | fuel + 1, ts => do
    let rest ← match ts with
      | .opens '(' :: .closes ')' :: rest => some rest
      | .opens '(' :: rest => readInput fuel rest
      | _ => none
    match rest with
    | .mark ['-', '>'] :: rest => (readType false fuel rest).map Prod.snd
    | rest => some rest

/-- Takes inputs, named or not, off the front, and the parenthesis that ends them. -/
def readInput : (fuel : Nat) → List TypeToken → Option (List TypeToken)
  | 0, _ => none
  | fuel + 1, ts => do
    let rest ← match ts with
      | .mark ['.', '.', '.'] :: rest => some rest
      | .word _ :: .mark [':'] :: rest => (readType true fuel rest).map Prod.snd
      | ts => (readType true fuel ts).map Prod.snd
    match rest with
    | .closes ')' :: rest => some rest
    | .mark [','] :: .closes ')' :: rest => some rest
    | .mark [','] :: rest => readInput fuel rest
    | _ => none

/-- Takes a function type off the front. -/
def readFunction : (fuel : Nat) → List TypeToken → Option (List TypeToken)
  | 0, _ => none
  | fuel + 1, ts => do
    let rest := (skip? (keyword "unsafe") ts).getD ts
    let rest := match skip? (keyword "extern") rest with
      | some (.literal _ :: rest) => rest
      | some rest => rest
      | none => rest
    let rest ← skip? (keyword "fn") rest
    readInputs fuel rest

/-- Takes bounds off the front, with `plus` a sum of them, which may end in a plus sign. Not all of them
    are lifetimes, unless a trait has been `named` before. -/
def readBounds (plus named : Bool) : (fuel : Nat) → List TypeToken → Option (List TypeToken)
  | 0, _ => none
  | fuel + 1, ts => do
    let (named, rest) ← match ts with
      | .lifetime _ :: rest => some (named, rest)
      | .opens '(' :: rest => do
        let rest ← readBounds false false fuel rest
        (skip? (.closes ')') rest).map fun rest => (true, rest)
      | ts =>
        let rest := skipBinder ((skip? (punct "?") ts).getD ts)
        (readPath fuel ((skip? (punct "::") rest).getD rest)).map fun (_, rest) => (true, rest)
    match rest with
    | .mark ['+'] :: more =>
      if plus ∧ beginsBound more then readBounds plus named fuel more
      else if named then some (if plus then more else rest)
      else none
    | rest => if named then some rest else none

end

/-- The type that a text states. -/
def ofText? (text : String) : Option TypeExpr := do
  let ts ← TypeToken.read? text.toList
  if !balanced [] ts then none
  let (t, rest) ← readType true (2 * ts.length + 2) ts
  if rest.isEmpty then some t else none

/-- A type that may be absent is one named `Option` with a type as its argument. What is found is the
    type that is meant, and whether it may be absent. -/
def unwrapOption : TypeExpr → TypeExpr × Bool
  | path name (some inner) => if name = "Option".toList then (inner, true) else (path name (some inner), false)
  | t => (t, false)

/-- The name that stands for a type in schemas: of a path its last segment, else the type as written. -/
def kindName : TypeExpr → String
  | path name _ => String.ofList name
  | other tokens => String.ofList (TypeToken.write tokens)

end TypeExpr

end StoreAccess
