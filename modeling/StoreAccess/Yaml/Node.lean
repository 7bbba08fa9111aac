import StoreAccess.Yaml.Token

/-! The tree of a document, built from its tokens. A node with an anchor is kept in a table; an alias
    stands for the node in the table. -/

namespace StoreAccess
namespace Yaml

inductive Node where
  | scalar (text : String) (style : ScalarStyle) (tag : Option String)
  | list (items : List Node)
  | map (entries : List (Node × Node))
  | alias (anchor : Nat)
  deriving Repr

namespace Node

/-- What an empty place holds. -/
def empty : Node := scalar "" .plain none

end Node

/-- The anchors of a document: their numbers by name, and the nodes by number. Of two nodes with one
    number the one that begins later stands first, and is the one that counts. -/
structure Anchors where
  numbers : List (String × Nat)
  nodes : List (Nat × Node)

namespace Anchors

def none : Anchors := ⟨[], []⟩

/-- Gives a name the next number, in the place of its old one. -/
def assign (a : Anchors) (name : String) : Anchors × Nat :=
  let n := a.numbers.length
  ({ a with numbers := (name, n) :: a.numbers.filter fun p => p.1 != name }, n)

/-- Defines a node of which all nodes but the first so many are parts. -/
def define (a : Anchors) (before n : Nat) (x : Node) : Anchors :=
  let parts := a.nodes.length - before
  { a with nodes := a.nodes.take parts ++ (n, x) :: a.nodes.drop parts }

end Anchors

/-- What a reader has left: the tokens, the anchors so far, and the handles of tags. -/
structure NodeReader where
  tokens : List Token
  anchors : Anchors
  handles : List String

namespace NodeReader

def skip (r : NodeReader) : NodeReader := { r with tokens := r.tokens.drop 1 }

/-- The next token is one of these, or there is none. -/
def isAt (r : NodeReader) (ts : List Token) : Bool := r.tokens.head?.all ts.contains

/-- The tag that a handle and a suffix stand for; the handle has to be known. -/
def tag? (r : NodeReader) (handle suffix : String) : Option String :=
  if handle = "" then some suffix
  else if handle = "!!" then some ("tag:yaml.org,2002:" ++ suffix)
  else if handle = "!" || r.handles.contains handle then some (handle ++ suffix)
  else none

/-- An anchor and a tag before a node, in whichever order. -/
def properties? (r : NodeReader) : Option (Option String × Option String × NodeReader) :=
  match r.tokens with
  | .anchor a :: .tag h s :: rest => (r.tag? h s).map fun t => (some a, some t, { r with tokens := rest })
  | .tag h s :: .anchor a :: rest => (r.tag? h s).map fun t => (some a, some t, { r with tokens := rest })
  | .anchor a :: rest => some (some a, none, { r with tokens := rest })
  | .tag h s :: rest => (r.tag? h s).map fun t => (none, some t, { r with tokens := rest })
  | _ => some (none, none, r)

mutual

/-- Reads a node. Block collections count only where `block`, and a list without indentation only where
    `loose`. -/
def node? (fuel : Nat) (r : NodeReader) (block loose : Bool) : Option (Node × NodeReader) :=
  match fuel with
  | 0 => none
  | fuel + 1 =>
    match r.tokens with
    | .alias name :: rest => do
      let n ← r.anchors.numbers.lookup name
      some (.alias n, { r with tokens := rest })
    | _ => do
      let (anchor, tag, r) ← r.properties?
      let (number, r) := match anchor with
        | some name =>
          let (anchors, n) := r.anchors.assign name
          (some n, { r with anchors := anchors })
        | none => (none, r)
      let before := r.anchors.nodes.length
      let (x, r) ← content? fuel r block loose (anchor.isSome || tag.isSome) tag
      match number with
      | some n => some (x, { r with anchors := r.anchors.define before n x })
      | none => some (x, r)

/-- Reads what follows the properties of a node; it may be missing if there are some. -/
def content? (fuel : Nat) (r : NodeReader) (block loose marked : Bool) (tag : Option String) :
    Option (Node × NodeReader) :=
  match fuel with
  | 0 => none
  | fuel + 1 =>
    let absent : Option (Node × NodeReader) := if marked then some (.scalar "" .plain tag, r) else none
    match r.tokens with
    | .blockEntry :: _ => if loose then (looseItems? fuel r).map fun p => (.list p.1, p.2) else absent
    | .scalar text style :: _ => some (.scalar text style tag, r.skip)
    | .flowListStart :: _ => (flowItems? fuel r.skip true).map fun p => (.list p.1, p.2)
    | .flowMapStart :: _ => (flowEntries? fuel r.skip true).map fun p => (.map p.1, p.2)
    | .blockListStart :: _ =>
      if block then (blockItems? fuel r.skip).map fun p => (.list p.1, p.2) else absent
    | .blockMapStart :: _ =>
      if block then (blockEntries? fuel r.skip).map fun p => (.map p.1, p.2) else absent
    | _ => absent

/-- Reads a node, or an empty one before one of these tokens. -/
def nodeUnless? (fuel : Nat) (r : NodeReader) (stops : List Token) (block loose : Bool) :
    Option (Node × NodeReader) :=
  match fuel with
  | 0 => none
  | fuel + 1 => if r.isAt stops then some (.empty, r) else node? fuel r block loose

/-- Reads the items of an indented list and its end. -/
def blockItems? (fuel : Nat) (r : NodeReader) : Option (List Node × NodeReader) :=
  match fuel with
  | 0 => none
  | fuel + 1 =>
    match r.tokens with
    | .blockEntry :: _ => do
      let (x, r) ← nodeUnless? fuel r.skip [.blockEntry, .blockEnd] true false
      let (xs, r) ← blockItems? fuel r
      some (x :: xs, r)
    | .blockEnd :: _ => some ([], r.skip)
    | _ => none

/-- Reads the items of a list that is not indented; another token ends it. -/
def looseItems? (fuel : Nat) (r : NodeReader) : Option (List Node × NodeReader) :=
  match fuel with
  | 0 => none
  | fuel + 1 =>
    match r.tokens with
    | .blockEntry :: _ => do
      let (x, r) ← nodeUnless? fuel r.skip [.blockEntry, .key, .value, .blockEnd] true false
      let (xs, r) ← looseItems? fuel r
      some (x :: xs, r)
    | _ => some ([], r)

/-- Reads the entries of an indented map and its end. -/
def blockEntries? (fuel : Nat) (r : NodeReader) : Option (List (Node × Node) × NodeReader) :=
  match fuel with
  | 0 => none
  | fuel + 1 =>
    match r.tokens with
    | .blockEnd :: _ => some ([], r.skip)
    | .key :: _ => do
      let (k, r) ← nodeUnless? fuel r.skip [.key, .value, .blockEnd] true true
      let (v, r) ← blockValue? fuel r
      let (rest, r) ← blockEntries? fuel r
      some ((k, v) :: rest, r)
    | _ => none

/-- Reads the value of an entry of an indented map, which may be missing. -/
def blockValue? (fuel : Nat) (r : NodeReader) : Option (Node × NodeReader) :=
  match fuel with
  | 0 => none
  | fuel + 1 =>
    match r.tokens with
    | .value :: _ => nodeUnless? fuel r.skip [.key, .value, .blockEnd] true true
    | _ => some (.empty, r)

/-- Passes the comma before all items in brackets but the first. -/
def flowItems? (fuel : Nat) (r : NodeReader) (first : Bool) : Option (List Node × NodeReader) :=
  match fuel with
  | 0 => none
  | fuel + 1 =>
    match r.tokens with
    | .flowListEnd :: _ => some ([], r.skip)
    | .flowEntry :: _ => if first then none else flowItem? fuel r.skip
    | _ => if first then flowItem? fuel r else none

/-- Reads an item in brackets, and those after it. An item may be a map of one entry. -/
def flowItem? (fuel : Nat) (r : NodeReader) : Option (List Node × NodeReader) :=
  match fuel with
  | 0 => none
  | fuel + 1 =>
    match r.tokens with
    | .flowListEnd :: _ => some ([], r.skip)
    | .key :: _ => do
      let stops := [.flowEntry, .flowListEnd]
      let (k, r) ← nodeUnless? fuel r.skip (.value :: stops) false false
      let (v, r) ← flowValue? fuel r stops
      let (xs, r) ← flowItems? fuel r false
      some (.map [(k, v)] :: xs, r)
    | _ => do
      let (x, r) ← node? fuel r false false
      let (xs, r) ← flowItems? fuel r false
      some (x :: xs, r)

/-- Passes the comma before all entries in braces but the first. -/
def flowEntries? (fuel : Nat) (r : NodeReader) (first : Bool) :
    Option (List (Node × Node) × NodeReader) :=
  match fuel with
  | 0 => none
  | fuel + 1 =>
    match r.tokens with
    | .flowMapEnd :: _ => some ([], r.skip)
    | .flowEntry :: _ => if first then none else flowEntry? fuel r.skip
    | _ => if first then flowEntry? fuel r else none

/-- Reads an entry in braces, and those after it. A key may stand alone. -/
def flowEntry? (fuel : Nat) (r : NodeReader) : Option (List (Node × Node) × NodeReader) :=
  match fuel with
  | 0 => none
  | fuel + 1 =>
    match r.tokens with
    | .flowMapEnd :: _ => some ([], r.skip)
    | .key :: _ => do
      let stops := [.flowEntry, .flowMapEnd]
      let (k, r) ← nodeUnless? fuel r.skip (.value :: stops) false false
      let (v, r) ← flowValue? fuel r stops
      let (rest, r) ← flowEntries? fuel r false
      some ((k, v) :: rest, r)
    | _ => do
      let (k, r) ← node? fuel r false false
      let (rest, r) ← flowEntries? fuel r false
      some ((k, .empty) :: rest, r)

/-- Reads the value of an entry in brackets or braces, which may be missing. -/
def flowValue? (fuel : Nat) (r : NodeReader) (stops : List Token) : Option (Node × NodeReader) :=
  match fuel with
  | 0 => none
  | fuel + 1 =>
    match r.tokens with
    | .value :: _ => nodeUnless? fuel r.skip stops false false
    | _ => some (.empty, r)

end

/-- Reads the directives before a document. -/
def directives : List Token → List String → List Token × List String
  | .version :: rest, handles => directives rest handles
  | .tagHandle h :: rest, handles => directives rest (h :: handles)
  | rest, handles => (rest, handles)

/-- Reads the node of a document, which begins with a mark or without one. -/
def document? (tokens : List Token) : Option (Node × NodeReader) :=
  let fuel := 5 * tokens.length + 8
  match directives tokens [] with
  | (.documentStart :: rest, handles) =>
    nodeUnless? fuel ⟨rest, .none, handles⟩ [.version, .documentStart, .documentEnd] true false
  | (rest, _) =>
    if rest.length < tokens.length then none else node? fuel ⟨rest, .none, []⟩ true false

end NodeReader

/-- A document: its node, and the nodes with anchors. -/
structure Document where
  root : Node
  anchored : List (Nat × Node)

namespace Document

/-- Reads a text that holds one document, or nothing, which counts as an empty node. -/
def ofText? (cs : List Char) : Option Document := do
  let tokens ← Token.ofText? cs
  if tokens.isEmpty then some ⟨.empty, []⟩
  else
    let (root, r) ← NodeReader.document? tokens
    if r.tokens.all (· == .documentEnd) then some ⟨root, r.anchors.nodes⟩ else none

end Document

end Yaml
end StoreAccess
