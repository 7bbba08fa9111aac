import StoreAccess.Text.Hex
import StoreAccess.Yaml.Place

/-! The scalars of a document: plain words, quoted texts, and blocks of lines. Between two words of a
    plain or quoted scalar a single line break counts as a space, and of several the first is
    dropped. -/

namespace StoreAccess
namespace Yaml

/-- How a scalar is written. -/
inductive ScalarStyle where
  | plain
  | quoted
  | literal
  | folded
  deriving DecidableEq, Repr

/-! ### Gaps -/

/-- What stands between two words. -/
inductive Gap where
  | blanks (cs : List Char)
  /-- Line breaks: the first one and the others. Blanks beside them do not count. -/
  | lines (first more : List Char)
  deriving DecidableEq, Repr

namespace Gap

def none : Gap := blanks []

def text : Gap → List Char
  | blanks cs => cs
  | lines first more =>
    if first = ['\n'] then if more.isEmpty then [' '] else more else first ++ more

def hasLines : Gap → Bool
  | lines .. => true
  | blanks _ => false

def addBreak : Gap → List Char → Gap
  | blanks _, b => lines b []
  | lines first more, b => lines first (more ++ b)

def addBlank : Gap → Char → Gap
  | blanks cs, c => blanks (cs ++ [c])
  | lines first more, _ => lines first more

/-- Reads a gap on. Before the column `indent` a line may not begin with a tab. -/
def read (indent : Nat) : (fuel : Nat) → Gap → Place → Option (Gap × Place)
  | 0, _, _ => Option.none
  | fuel + 1, g, p =>
    match p.rest with
    | [] => some (g, p)
    | c :: _ =>
      if isBreak c then read indent fuel (g.addBreak p.breakText) p.skipBreak
      else if isBlank c then
        if g.hasLines && p.column < indent && c = '\t' then Option.none
        else read indent fuel (g.addBlank c) (p.skip 1)
      else some (g, p)

end Gap

/-! ### Plain scalars -/

def isFlowIndicator (c : Char) : Bool :=
  c = ',' || c = '[' || c = ']' || c = '\x7b' || c = '\x7d'

/-- The word at the beginning of a text, up to a blank, or to an indicator that ends it. Within brackets
    a colon may not stand before an indicator. -/
def plainWord? (flow : Bool) : List Char → Option (List Char)
  | [] => some []
  | c :: rest =>
    if isBlank c || isBreak c then some []
    else if flow && c = ':' && rest.head?.any (fun d => isFlowIndicator d || d = '?') then none
    else if (c = ':' && endsWord rest) || (flow && isFlowIndicator c) then some []
    else (plainWord? flow rest).map (c :: ·)

/-- Reads words onto a text and the gap after it. The result tells whether a line break came last. -/
def readPlain (flow : Bool) (indent : Nat) :
    (fuel : Nat) → (text : List Char) → Gap → Place → Option (List Char × Bool × Place)
  | 0, _, _, _ => none
  | fuel + 1, text, g, p =>
    if p.atDocumentMark || p.rest.head? = some '#' then some (text, g.hasLines, p)
    else do
      let word ← plainWord? flow p.rest
      let p := p.skip word.length
      let (text, g) := if word.isEmpty then (text, g) else (text ++ g.text ++ word, Gap.none)
      if p.rest.isEmpty || !endsWord p.rest then some (text, g.hasLines, p)
      else
        let (g, p) ← g.read indent (p.rest.length + 1) p
        if !flow && p.column < indent then some (text, g.hasLines, p)
        else readPlain flow indent fuel text g p

/-! ### Quoted scalars -/

/-- The number of so many hexadecimal digits. -/
def hexNumber? : (digits : Nat) → (value : Nat) → List Char → Option Nat
  | 0, value, _ => some value
  | digits + 1, value, c :: rest => do
    let d ← Text.hexValue? c
    hexNumber? digits (value * 16 + d) rest
  | _ + 1, _, [] => none

/-- The character that an escape stands for, and how many characters follow the backslash. -/
def escape? : List Char → Option (Char × Nat)
  | [] => none
  | c :: rest =>
    match c with
    | '0' => some ('\x00', 1)
    | 'a' => some ('\x07', 1)
    | 'b' => some ('\x08', 1)
    | 't' => some ('\t', 1)
    | '\t' => some ('\t', 1)
    | 'n' => some ('\n', 1)
    | 'v' => some ('\x0b', 1)
    | 'f' => some ('\x0c', 1)
    | 'r' => some ('\r', 1)
    | 'e' => some ('\x1b', 1)
    | ' ' => some (' ', 1)
    | '"' => some ('"', 1)
    | '/' => some ('/', 1)
    | '\\' => some ('\\', 1)
    | 'N' => some ('\u0085', 1)
    | '_' => some ('\u00a0', 1)
    | 'L' => some ('\u2028', 1)
    | 'P' => some ('\u2029', 1)
    | 'x' => code? 2 rest
    | 'u' => code? 4 rest
    | 'U' => code? 8 rest
    | _ => none
where
  code? (digits : Nat) (rest : List Char) : Option (Char × Nat) := do
    let n ← hexNumber? digits 0 rest
    if n < 0xD800 ∨ (0xDFFF < n ∧ n ≤ 0x10FFFF) then some (Char.ofNat n, digits + 1) else none

/-- Reads a quoted word onto a text, up to a blank or the closing quote. The result tells whether the
    word ended in an escaped line break. -/
def readQuotedWord (quote : Char) :
    (fuel : Nat) → (text : List Char) → Place → Option (List Char × Bool × Place)
  | 0, _, _ => none
  | fuel + 1, text, p =>
    match p.rest with
    | [] => some (text, false, p)
    | c :: rest =>
      if isBlank c || isBreak c then some (text, false, p)
      else if quote = '\'' && c = '\'' && rest.head? = some '\'' then
        readQuotedWord quote fuel (text ++ ['\'']) (p.skip 2)
      else if c = quote then some (text, false, p)
      else if quote = '"' && c = '\\' then
        if rest.head?.any isBreak then some (text, true, (p.skip 1).skipBreak)
        else do
          let (d, n) ← escape? rest
          readQuotedWord quote fuel (text ++ [d]) (p.skip (n + 1))
      else readQuotedWord quote fuel (text ++ [c]) (p.skip 1)

/-- Reads the words of a quoted scalar onto a text, up to and over the closing quote. -/
def readQuoted (quote : Char) : (fuel : Nat) → (text : List Char) → Place → Option (List Char × Place)
  | 0, _, _ => none
  | fuel + 1, text, p =>
    if p.atDocumentMark || p.rest.isEmpty then none
    else do
      let (text, joined, p) ← readQuotedWord quote (p.rest.length + 1) text p
      if p.rest.head? = some quote then some (text, p.skip 1)
      else
        let (g, p) ← (if joined then Gap.lines [] [] else Gap.none).read 0 (p.rest.length + 1) p
        readQuoted quote fuel (text ++ g.text) p

/-! ### Block scalars -/

/-- What is kept of the line breaks at the end of a block. -/
inductive Chomping where
  | strip
  | clip
  | keep
  deriving DecidableEq, Repr

/-- The header of a block after its indicator: the chomping and the indentation it states, in whichever
    order. -/
def blockHeader? (p : Place) : Option (Chomping × Option Nat × Place) :=
  let chomping (p : Place) : Option (Chomping × Place) :=
    match p.rest.head? with
    | some '+' => some (.keep, p.skip 1)
    | some '-' => some (.strip, p.skip 1)
    | _ => none
  let width (p : Place) : Option (Option Nat × Place) :=
    match p.rest.head? with
    | some c => if c = '0' then none else if c.isDigit then some (some (c.toNat - 48), p.skip 1) else some (none, p)
    | none => some (none, p)
  match chomping p with
  | some (c, p) => (width p).map fun w => (c, w.1, w.2)
  | none => do
    let (w, p) ← width p
    if w.isNone then some (.clip, none, p)
    else
      match chomping p with
      | some (c, p) => some (c, w, p)
      | none => some (.clip, w, p)

/-- Reads the line breaks before a line of a block, and the spaces up to the indentation, if that is
    known: the breaks and the greatest column that was reached. -/
def readBlockBreaks (indent : Option Nat) :
    (fuel : Nat) → (breaks : List Char) → (reached : Nat) → Place → Option (List Char × Nat × Place)
  | 0, _, _, _ => none
  | fuel + 1, breaks, reached, p =>
    let spaces := (p.rest.takeWhile (· = ' ')).length
    let p := p.skip (indent.elim spaces fun n => min spaces (n - p.column))
    let reached := max reached p.column
    if (indent.all fun n => p.column < n) && p.rest.head? = some '\t' then none
    else if p.rest.head?.any isBreak then
      readBlockBreaks indent fuel (breaks ++ p.breakText) reached p.skipBreak
    else some (breaks, reached, p)

/-- The text of a block read so far: its lines, the break after the last one, the further breaks, and
    whether that line began with a blank. -/
structure BlockText where
  text : List Char
  lineEnd : List Char
  breaks : List Char
  blankStart : Bool

/-- Reads the lines of a block. -/
def readBlockLines (literal : Bool) (indent : Nat) :
    (fuel : Nat) → BlockText → Place → Option (BlockText × Place)
  | 0, _, _ => none
  | fuel + 1, b, p =>
    if p.column ≠ indent ∨ p.rest.isEmpty then some (b, p)
    else do
      let blank := p.rest.head?.any isBlank
      let folded := !literal && b.lineEnd = ['\n'] && !b.blankStart && !blank
      let joint := if folded then if b.breaks.isEmpty then [' '] else [] else b.lineEnd
      let line := p.rest.takeWhile fun c => !isBreak c
      let p := p.skip line.length
      let text := b.text ++ joint ++ b.breaks ++ line
      let lineEnd := p.breakText
      let (breaks, _, p) ← readBlockBreaks (some indent) (p.rest.length + 1) [] 0 p.skipBreak
      readBlockLines literal indent fuel ⟨text, lineEnd, breaks, blank⟩ p

/-- Reads a block after its indicator, in a collection at the column `outer`, or in none. -/
def readBlock (literal : Bool) (outer : Option Nat) (p : Place) : Option (List Char × Place) := do
  let (chomping, width, p) ← blockHeader? p
  let p := p.skipWhile isBlank
  let p := if p.rest.head? = some '#' then p.skipWhile fun c => !isBreak c else p
  if !endsLine p.rest then none
  else
    let p := p.skipBreak
    let stated := width.map fun n => n + outer.getD 0
    let (breaks, reached, p) ← readBlockBreaks stated (p.rest.length + 1) [] 0 p
    let indent := stated.getD (max (max reached (outer.elim 0 (· + 1))) 1)
    let (b, p) ← readBlockLines literal indent (p.rest.length + 1) ⟨[], [], breaks, false⟩ p
    let tail := match chomping with
      | .strip => []
      | .clip => b.lineEnd
      | .keep => b.lineEnd ++ b.breaks
    some (b.text ++ tail, p)

end Yaml
end StoreAccess
