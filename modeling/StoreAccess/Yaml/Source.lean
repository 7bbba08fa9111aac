import StoreAccess.Data.Source
import StoreAccess.Number.IntLiteral
import StoreAccess.Text.Hex
import StoreAccess.Yaml.Node

/-! Typed data from a document. Any scalar can stand for a text, but only a plain one for a number, or a
    literal one that is tagged as one. An empty plain scalar stands for an empty list or object too. The
    fields of a structure are always named. -/

namespace StoreAccess
namespace Yaml

/-- A node within its document. -/
structure NodeAt where
  node : Node
  anchored : List (Nat × Node)

namespace NodeAt

def ofDocument (d : Document) : NodeAt := ⟨d.root, d.anchored⟩

/-- The node itself, or the one that an alias stands for. -/
def target (x : NodeAt) : Node :=
  match x.node with
  | .alias n => (x.anchored.lookup n).getD x.node
  | node => node

def text? (x : NodeAt) : Option String :=
  match x.target with
  | .scalar text _ _ => some text
  | _ => none

/-- The number of digits in a base of at most sixteen, all of them and at least one. -/
def inBase? (base : Nat) (cs : List Char) : Option Nat :=
  if cs.isEmpty then none
  else
    cs.foldl (fun n c => do
      let n ← n
      let d ← Text.hexValue? c
      if d < base then some (n * base + d) else none) (some 0)

/-- The natural number that a word writes: in decimal without leading zeros, or after a prefix in
    another base, and after a plus sign or none. -/
def numberOf? (cs : List Char) : Option Nat :=
  let body := if cs.head? = some '+' then cs.drop 1 else cs
  match body with
  | '0' :: 'x' :: rest => inBase? 16 rest
  | '0' :: 'o' :: rest => inBase? 8 rest
  | '0' :: 'b' :: rest => inBase? 2 rest
  | '0' :: _ :: _ => none
  | _ => inBase? 10 body

def isNullWord (s : String) : Bool := ["null", "Null", "NULL", "~"].contains s

def nullTag : String := "tag:yaml.org,2002:null"

/-- The tag of whole numbers. -/
def wholeTag : String := "tag:yaml.org,2002:int"

/-- A plain scalar without a tag stands for nothing if it is empty or says null. One that is tagged as
    null has to say so. -/
def present? (x : NodeAt) : Option (Option NodeAt) :=
  match x.target with
  | .scalar text .plain none => some (if text = "" || isNullWord text then none else some x)
  | .scalar text .plain (some tag) =>
    if tag ≠ nullTag then some (some x) else if isNullWord text then some none else none
  | _ => some (some x)

def items? (x : NodeAt) : Option (List NodeAt) :=
  match x.target with
  | .list items => some (items.map fun n => ⟨n, x.anchored⟩)
  | .scalar text .plain _ => if text = "" then some [] else none
  | _ => none

def fields? (x : NodeAt) : Option (List (String × NodeAt)) :=
  match x.target with
  | .map entries => entries.mapM fun e => (text? ⟨e.1, x.anchored⟩).map fun k => (k, ⟨e.2, x.anchored⟩)
  | .scalar text .plain _ => if text = "" then some [] else none
  | _ => none

/-- A natural number up to a limit. -/
def natural? (limit : Nat) (x : NodeAt) : Option Nat :=
  match x.target with
  | .scalar text style tag =>
    if style = .plain ∨ (style = .literal ∧ tag = some wholeTag) then
      (numberOf? text.toList).filter (· ≤ limit)
    else none
  | _ => none

instance : Source NodeAt where
  text? := text?
  natural? := natural?
  items? := items?
  positions? _ := none
  fields? := fields?
  present? := present?

end NodeAt

end Yaml
end StoreAccess
