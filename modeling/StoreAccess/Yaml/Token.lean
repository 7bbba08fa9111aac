import StoreAccess.Yaml.Scalar

/-! The tokens of a document. Block collections are told by columns: a token is put in where one begins
    and where it ends. That a scalar is a key is only seen at the colon after it, so the place of every
    scalar that may be one is kept, and the key token is put in there later. -/

namespace StoreAccess
namespace Yaml

inductive Token where
  | version
  | tagHandle (handle : String)
  | documentStart
  | documentEnd
  | blockListStart
  | blockMapStart
  | blockEnd
  | flowListStart
  | flowListEnd
  | flowMapStart
  | flowMapEnd
  | blockEntry
  | flowEntry
  | key
  | value
  | alias (name : String)
  | anchor (name : String)
  | tag (handle suffix : String)
  | scalar (text : String) (style : ScalarStyle)
  deriving DecidableEq, Repr

/-- Where a key may begin: the number of tokens before it, and its place. -/
structure KeyStart where
  tokens : Nat
  index : Nat
  line : Nat
  column : Nat
  /-- Nothing but a key can begin here. -/
  required : Bool
  deriving DecidableEq, Repr

structure Lexer where
  place : Place
  /-- How many brackets are open. -/
  flow : Nat
  /-- The columns of the open block collections, innermost first. -/
  indents : List Nat
  /-- A key may begin at the next token. -/
  keyAllowed : Bool
  /-- Where the last key may have begun, at the innermost level first; outside of brackets is one
      level, and every bracket opens one more. -/
  keys : List (Option KeyStart)
  tokens : List Token

namespace Lexer

def ofPlace (p : Place) : Lexer := ⟨p, 0, [], true, [none], []⟩

def push (x : Lexer) (t : Token) : Lexer := { x with tokens := x.tokens ++ [t] }

def skip (x : Lexer) (n : Nat) : Lexer := { x with place := x.place.skip n }

def allowKey (x : Lexer) (allowed : Bool) : Lexer := { x with keyAllowed := allowed }

/-- The column lies to the right of the innermost block collection. -/
def isDeeper (x : Lexer) (column : Nat) : Bool := x.indents.head?.all fun n => n < column

/-- Ends the block collections to the right of a column. -/
def closeBlocks (x : Lexer) (column : Nat) : Lexer :=
  if x.flow = 0 then
    let closed := (x.indents.takeWhile fun n => column < n).length
    { x with indents := x.indents.drop closed, tokens := x.tokens ++ List.replicate closed .blockEnd }
  else x

/-- Ends all block collections. -/
def closeAllBlocks (x : Lexer) : Lexer :=
  if x.flow = 0 then
    { x with indents := [], tokens := x.tokens ++ List.replicate x.indents.length .blockEnd }
  else x

/-- Begins a block collection at a column that lies deeper, with its token after so many others. -/
def openBlock (x : Lexer) (column tokens : Nat) (t : Token) : Lexer :=
  if x.flow = 0 && x.isDeeper column then
    { x with indents := column :: x.indents, tokens := x.tokens.take tokens ++ t :: x.tokens.drop tokens }
  else x

/-- Forgets where the last key may have begun; a required one is missed. -/
def dropKey? (x : Lexer) : Option Lexer :=
  match x.keys with
  | some k :: rest => if k.required then none else some { x with keys := none :: rest }
  | _ => some x

/-- A key may begin here, if one is allowed. -/
def saveKey? (x : Lexer) : Option Lexer :=
  if x.keyAllowed then do
    let x ← x.dropKey?
    let p := x.place
    let required := x.flow = 0 && x.indents.head? = some p.column
    some { x with keys := some ⟨x.tokens.length, p.index, p.line, p.column, required⟩ :: x.keys.drop 1 }
  else some x

/-- How far a key may reach, within its line. -/
def keyReach : Nat := 1024

/-- Forgets where keys may have begun that are too far away; a required one is missed. -/
def dropStaleKeys? (x : Lexer) : Option Lexer := do
  let p := x.place
  let keys ← x.keys.mapM fun k =>
    match k with
    | some k =>
      if k.line < p.line ∨ k.index + keyReach < p.index then if k.required then none else some none
      else some (some k)
    | none => some none
  some { x with keys := keys }

/-- Passes blanks, comments and line breaks. Outside of brackets a tab may not stand where a key may
    begin. -/
def skipGap (fuel : Nat) (x : Lexer) : Lexer :=
  match fuel with
  | 0 => x
  | fuel + 1 =>
    let tabs := x.flow ≠ 0 ∨ !x.keyAllowed
    let p := x.place.skipWhile fun c => c = ' ' || (tabs && c = '\t')
    let p := if p.rest.head? = some '#' then p.skipWhile fun c => !isBreak c else p
    if p.rest.head?.any isBreak then
      skipGap fuel { x with place := p.skipBreak, keyAllowed := x.keyAllowed || x.flow = 0 }
    else { x with place := p }

/-! ### Single tokens -/

/-- A token that parts documents, or a directive: it ends all blocks. -/
def parting? (x : Lexer) : Option Lexer := do
  let x ← x.closeAllBlocks.dropKey?
  some (x.allowKey false)

def openBracket? (x : Lexer) (t : Token) : Option Lexer := do
  let x ← x.saveKey?
  some (({ x with flow := x.flow + 1, keys := none :: x.keys }.allowKey true).skip 1 |>.push t)

def closeBracket? (x : Lexer) (t : Token) : Option Lexer := do
  let x ← x.dropKey?
  let x := if x.flow = 0 then x else { x with flow := x.flow - 1, keys := x.keys.drop 1 }
  some ((x.allowKey false).skip 1 |>.push t)

def flowEntry? (x : Lexer) : Option Lexer := do
  let x ← x.dropKey?
  some ((x.allowKey true).skip 1 |>.push .flowEntry)

def blockEntry? (x : Lexer) : Option Lexer :=
  if x.flow = 0 && !x.keyAllowed then none
  else do
    let x ← (x.openBlock x.place.column x.tokens.length .blockListStart).dropKey?
    some ((x.allowKey true).skip 1 |>.push .blockEntry)

def key? (x : Lexer) : Option Lexer :=
  if x.flow = 0 && !x.keyAllowed then none
  else do
    let x ← (x.openBlock x.place.column x.tokens.length .blockMapStart).dropKey?
    some ((x.allowKey (x.flow = 0)).skip 1 |>.push .key)

def value? (x : Lexer) : Option Lexer :=
  match x.keys with
  | some k :: rest =>
    let x := { x with keys := none :: rest, tokens := x.tokens.take k.tokens ++ Token.key :: x.tokens.drop k.tokens }
    let x := x.openBlock k.column k.tokens .blockMapStart
    some ((x.allowKey false).skip 1 |>.push .value)
  | _ =>
    if x.flow = 0 && !x.keyAllowed then none
    else
      let x := x.openBlock x.place.column x.tokens.length .blockMapStart
      some ((x.allowKey (x.flow = 0)).skip 1 |>.push .value)

/-- An anchor or an alias: its indicator and its name. -/
def named? (x : Lexer) (t : String → Token) : Option Lexer := do
  let x ← x.saveKey?
  let name := (x.place.rest.drop 1).takeWhile isWordChar
  let rest := x.place.rest.drop (name.length + 1)
  let ends := endsWord rest || rest.head?.any fun c => "?:,]\x7d%@\x60".toList.contains c
  if name.isEmpty || !ends then none
  else some ((x.allowKey false).skip (name.length + 1) |>.push (t (String.ofList name)))

/-- Characters that a tag is made of; some only between angle brackets. -/
def isTagChar (bracketed : Bool) (c : Char) : Bool :=
  isWordChar c || ";/?:@&=+$.!~*'()%".toList.contains c || (bracketed && ",[]".toList.contains c)

/-- The escapes in a tag are complete. -/
def escapesComplete : List Char → Bool
  | [] => true
  | '%' :: a :: b :: rest => (Text.hexValue? a).isSome && (Text.hexValue? b).isSome && escapesComplete rest
  | c :: rest => c ≠ '%' && escapesComplete rest

def tag? (x : Lexer) : Option Lexer := do
  let x ← x.saveKey?
  let body := x.place.rest.drop 1
  let (handle, suffix, length) ←
    if body.head? = some '<' then do
      let uri := (body.drop 1).takeWhile (isTagChar true)
      if uri.isEmpty || (body.drop (uri.length + 1)).head? ≠ some '>' then none
      else some ("", uri, uri.length + 3)
    else do
      let name := body.takeWhile isWordChar
      if (body.drop name.length).head? = some '!' then do
        let uri := (body.drop (name.length + 1)).takeWhile (isTagChar false)
        if uri.isEmpty then none
        else some ("!" ++ String.ofList name ++ "!", uri, name.length + 2 + uri.length)
      else
        let uri := body.takeWhile (isTagChar false)
        some (if uri.isEmpty then "" else "!", if uri.isEmpty then ['!'] else uri, uri.length + 1)
  let rest := x.place.rest.drop length
  if !escapesComplete suffix || !(endsWord rest || (x.flow ≠ 0 && rest.head? = some ',')) then none
  else some ((x.allowKey false).skip length |>.push (.tag handle (String.ofList suffix)))

def block? (x : Lexer) (literal : Bool) : Option Lexer := do
  let x ← x.dropKey?
  let (text, p) ← readBlock literal x.indents.head? (x.place.skip 1)
  let style := if literal then ScalarStyle.literal else ScalarStyle.folded
  some ({ x with place := p }.allowKey true |>.push (.scalar (String.ofList text) style))

def quoted? (x : Lexer) (quote : Char) : Option Lexer := do
  let x ← x.saveKey?
  let (text, p) ← readQuoted quote (x.place.rest.length + 1) [] (x.place.skip 1)
  some ({ x with place := p }.allowKey false |>.push (.scalar (String.ofList text) .quoted))

def plain? (x : Lexer) : Option Lexer := do
  let x ← x.saveKey?
  let indent := x.indents.head?.elim 0 (· + 1)
  let (text, lines, p) ← readPlain (x.flow ≠ 0) indent (x.place.rest.length + 1) [] .none x.place
  some ({ x with place := p }.allowKey lines |>.push (.scalar (String.ofList text) .plain))

/-- A version, as two numbers with a point between them, of the two that are known. -/
def isKnownVersion (cs : List Char) : Bool := cs = ['1', '.', '1'] || cs = ['1', '.', '2']

/-- A handle of tags: an exclamation mark, or a word or nothing between two. -/
def isHandle (cs : List Char) : Bool :=
  cs = ['!'] || (2 ≤ cs.length && cs.head? = some '!' && cs.getLast? = some '!'
    && ((cs.drop 1).take (cs.length - 2)).all isWordChar)

/-- A directive states the version, or introduces a handle of tags. -/
def directive? (x : Lexer) : Option Lexer := do
  let x ← x.parting?
  let line := x.place.rest.takeWhile fun c => !isBreak c
  let t ← match (String.ofList (line.takeWhile (· ≠ '#'))).splitOn " " |>.filter (· ≠ "") with
    | ["%YAML", version] => if isKnownVersion version.toList then some Token.version else none
    | ["%TAG", handle, uri] =>
      if isHandle handle.toList && uri.toList.all (isTagChar true) then some (.tagHandle handle) else none
    | _ => none
  some (x.skip line.length |>.push t)

/-! ### All tokens -/

/-- A plain scalar may begin with anything but a blank or an indicator; three indicators may begin one
    if something follows them. -/
def startsPlain (x : Lexer) : Bool :=
  match x.place.rest with
  | [] => false
  | c :: rest =>
    !(isBlank c || isBreak c || "-?:,[]\x7b\x7d#&*!|>'\"%@\x60".toList.contains c)
      || (c = '-' && !rest.head?.any isBlank)
      || (x.flow = 0 && (c = '?' || c = ':') && !endsWord rest)

/-- Reads the next token. -/
def next? (x : Lexer) : Option Lexer :=
  match x.place.rest with
  | [] => none
  | c :: rest =>
    if x.place.column = 0 && c = '%' then x.directive?
    else if x.place.atMark '-' then x.parting?.map fun x => (x.skip 3).push .documentStart
    else if x.place.atMark '.' then x.parting?.map fun x => (x.skip 3).push .documentEnd
    else if c = '[' then x.openBracket? .flowListStart
    else if c = '\x7b' then x.openBracket? .flowMapStart
    else if c = ']' then x.closeBracket? .flowListEnd
    else if c = '\x7d' then x.closeBracket? .flowMapEnd
    else if c = ',' then x.flowEntry?
    else if c = '-' && endsWord rest then x.blockEntry?
    else if c = '?' && (x.flow ≠ 0 || endsWord rest) then x.key?
    else if c = ':' && (x.flow ≠ 0 || endsWord rest) then x.value?
    else if c = '*' then x.named? .alias
    else if c = '&' then x.named? .anchor
    else if c = '!' then x.tag?
    else if c = '|' && x.flow = 0 then x.block? true
    else if c = '>' && x.flow = 0 then x.block? false
    else if c = '\'' || c = '"' then x.quoted? c
    else if x.startsPlain then x.plain?
    else none

/-- Reads tokens up to the end of the text. -/
def readAll : (fuel : Nat) → Lexer → Option (List Token)
  | 0, _ => none
  | fuel + 1, x => do
    let x := x.skipGap (x.place.rest.length + 1)
    let x ← x.dropStaleKeys?
    let x := x.closeBlocks x.place.column
    if x.place.rest.isEmpty then (x.closeAllBlocks.dropKey?).map Lexer.tokens
    else
      let x ← x.next?
      readAll fuel x

end Lexer

/-- The tokens of a text. A byte order mark may begin it. -/
def Token.ofText? (cs : List Char) : Option (List Token) :=
  let cs := if cs.head? = some '\ufeff' then cs.drop 1 else cs
  if cs.all isAllowed then Lexer.readAll (cs.length + 1) (.ofPlace (.ofText cs)) else none

end Yaml
end StoreAccess
