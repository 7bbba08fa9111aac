import Mathlib.Data.List.Basic
import StoreAccess.Config.Environment

/-! Texts cut into references and what stands between them. A text can be cut in one way only such that no reference
    begins anywhere outside those it is cut at, and replacing the references in a text replaces these, each once, and
    leaves all else as it is. -/

namespace StoreAccess
namespace Environment

/-! ### Names of variables -/

/-- A letter of the ASCII range or an underscore. -/
def BeginsName (c : Char) : Prop := 'a' ≤ c ∧ c ≤ 'z' ∨ 'A' ≤ c ∧ c ≤ 'Z' ∨ c = '_'

/-- The same or a digit. -/
def InName (c : Char) : Prop := BeginsName c ∨ '0' ≤ c ∧ c ≤ '9'

theorem isNameStart_iff {c : Char} : isNameStart c = true ↔ BeginsName c := by
  have upper : c.isUpper = true ↔ 'A' ≤ c ∧ c ≤ 'Z' := decide_eq_true_iff
  have lower : c.isLower = true ↔ 'a' ≤ c ∧ c ≤ 'z' := by
    rw [← decide_eq_true_iff (p := 'a' ≤ c), ← decide_eq_true_iff (p := c ≤ 'z'), ← Bool.and_eq_true]
    rfl
  have cases : isNameStart c = (c.isUpper || c.isLower || decide (c = '_')) := rfl
  rw [cases, Bool.or_eq_true, Bool.or_eq_true, upper, lower, decide_eq_true_eq, BeginsName, or_comm (a := _ ∧ _),
    or_assoc]

theorem isNameChar_iff {c : Char} : isNameChar c = true ↔ InName c := by
  have digit : c.isDigit = true ↔ '0' ≤ c ∧ c ≤ '9' := by
    simp only [Char.isDigit, Bool.and_eq_true, decide_eq_true_eq]
    rfl
  have either : isNameChar c = (isNameStart c || c.isDigit) := by
    simp only [isNameChar, isNameStart, Char.isAlphanum, Bool.or_assoc, Bool.or_comm c.isDigit]
  rw [either, Bool.or_eq_true, isNameStart_iff, digit, InName]

/-! ### References as they are written -/

/-- A reference as it is written: one with an empty default is not one without a default. -/
structure Mention where
  name : List Char
  default? : Option (List Char)
  deriving DecidableEq, Repr

namespace Mention

/-- The name is one of a variable, and the default does not hold what closes a reference. -/
structure WellFormed (m : Mention) : Prop where
  name : ∃ c rest, m.name = c :: rest ∧ BeginsName c ∧ ∀ x ∈ rest, InName x
  default : ∀ d, m.default? = some d → '\x7d' ∉ d

/-- What follows the name. -/
def tail (m : Mention) : List Char :=
  match m.default? with
  | some d => ':' :: '-' :: (d ++ ['\x7d'])
  | none => ['\x7d']

def text (m : Mention) : List Char := '$' :: '\x7b' :: (m.name ++ m.tail)

/-- The value of the variable; the default counts only if there is none. -/
def value (env : Environment) (m : Mention) : List Char :=
  match env.value? (String.ofList m.name) with
  | some s => s.toList
  | none => m.default?.getD []

end Mention

/-- A text begins with a reference. -/
def Opens (cs : List Char) : Prop := ∃ m : Mention, m.WellFormed ∧ m.text <+: cs

variable {cs rest : List Char} {c : Char} {m m' : Mention} {r : Reference}

namespace Reference

theorem close?_default (name : List Char) {d : List Char} (inside : '\x7d' ∉ d) (rest : List Char) :
    close? name (':' :: '-' :: (d ++ '\x7d' :: rest)) = some ⟨name, d, rest⟩ := by
  have inD : ∀ x ∈ d, (decide (x ≠ '\x7d')) = true := fun x there => by
    rw [decide_eq_true_eq]
    rintro rfl
    exact inside there
  rw [close?, List.dropWhile_append_of_pos inD, List.takeWhile_append_of_pos inD]
  simp

/-- What is written as a reference is read as one, whatever follows it. -/
theorem read?_text (wellFormed : m.WellFormed) (rest : List Char) :
    read? (m.text ++ rest) = some ⟨m.name, m.default?.getD [], rest⟩ := by
  obtain ⟨⟨c, name, hname, begins, within⟩, inside⟩ := wellFormed
  have start := isNameStart_iff.mpr begins
  have inName : ∀ x ∈ name, isNameChar x = true := fun x there => isNameChar_iff.mpr (within x there)
  obtain ⟨_, default?⟩ := m
  cases hname
  cases default? with
  | none =>
    show read? ('$' :: '\x7b' :: c :: (name ++ ['\x7d'] ++ rest)) = _
    rw [List.append_assoc, read?, if_pos start, List.takeWhile_append_of_pos inName,
      List.dropWhile_append_of_pos inName]
    simp [close?, isNameChar]
  | some d =>
    show read? ('$' :: '\x7b' :: c :: (name ++ ':' :: '-' :: (d ++ ['\x7d']) ++ rest)) = _
    rw [List.append_assoc, read?, if_pos start, List.takeWhile_append_of_pos inName,
      List.dropWhile_append_of_pos inName]
    have stops : isNameChar ':' = false := by decide
    simpa [stops] using close?_default (c :: name) (inside d rfl) rest

theorem exists_of_close? {name : List Char} (closed : close? name cs = some r) :
    ∃ default? : Option (List Char), (∀ d, default? = some d → '\x7d' ∉ d) ∧
      cs = (Mention.mk name default?).tail ++ r.rest ∧ r.name = name ∧ r.default = default?.getD [] := by
  unfold close? at closed
  split at closed
  · cases closed
    exact ⟨none, by simp, rfl, rfl, rfl⟩
  · rename_i rest
    split at closed
    · rename_i x after found
      cases closed
      have whole := List.takeWhile_append_dropWhile (p := (decide <| · ≠ '\x7d')) (l := rest)
      have last : x = '\x7d' := by
        have first := List.head?_dropWhile_not (decide <| · ≠ '\x7d') rest
        rw [found] at first
        simpa using first
      refine ⟨some (rest.takeWhile (· ≠ '\x7d')), ?_, ?_, rfl, rfl⟩
      · rintro d ⟨⟩ there
        simpa using List.all_eq_true.mp List.all_takeWhile _ there
      · rw [found, last] at whole
        simpa [Mention.tail] using whole.symm
    · cases closed
  · cases closed

/-- What is read as a reference is written as one. -/
theorem exists_of_read? (read : read? cs = some r) :
    ∃ m : Mention, m.WellFormed ∧ cs = m.text ++ r.rest ∧ ∀ env, r.value env = m.value env := by
  unfold read? at read
  split at read
  · rename_i c rest
    split at read
    · rename_i start
      obtain ⟨default?, inside, tail, name, default⟩ := exists_of_close? read
      have inName : ∀ x ∈ rest.takeWhile isNameChar, InName x := fun x there =>
        isNameChar_iff.mp (List.all_eq_true.mp List.all_takeWhile x there)
      have begins := isNameStart_iff.mp start
      refine ⟨⟨c :: rest.takeWhile isNameChar, default?⟩, ⟨⟨c, _, rfl, begins, inName⟩, inside⟩, ?_, fun env => ?_⟩
      · have whole := List.takeWhile_append_dropWhile (p := isNameChar) (l := rest)
        rw [tail] at whole
        simp only [Mention.text, List.cons_append, List.append_assoc]
        rw [whole]
      · cases r
        cases name
        cases default
        rfl
    · cases read
  · cases read

end Reference

theorem opens_iff : Opens cs ↔ ∃ r, Reference.read? cs = some r := by
  constructor
  · rintro ⟨m, wellFormed, rest, rfl⟩
    exact ⟨_, Reference.read?_text wellFormed rest⟩
  · rintro ⟨r, read⟩
    obtain ⟨m, wellFormed, rfl, -⟩ := Reference.exists_of_read? read
    exact ⟨m, wellFormed, r.rest, rfl⟩

/-- A text begins with one reference at most. -/
theorem Mention.text_append_inj (wellFormed : m.WellFormed) (wellFormed' : m'.WellFormed) {rest' : List Char}
    (same : m.text ++ rest = m'.text ++ rest') : m = m' ∧ rest = rest' := by
  have read := Reference.read?_text wellFormed rest
  rw [same, Reference.read?_text wellFormed' rest', Option.some.injEq, Reference.mk.injEq] at read
  obtain ⟨name, -, rfl⟩ := read
  obtain ⟨_, default?⟩ := m
  obtain ⟨_, default?'⟩ := m'
  cases name
  refine ⟨?_, rfl⟩
  have tails := List.append_cancel_right same
  cases default? <;> cases default?' <;> simp_all [Mention.text, Mention.tail]

/-! ### Texts in parts -/

/-- A text in parts: plain text, and then nothing more, or a reference and the parts behind it. -/
inductive Parts where
  | plain (t : List Char)
  | mention (t : List Char) (m : Mention) (rest : Parts)
  deriving DecidableEq, Repr

namespace Parts

def text : Parts → List Char
  | plain t => t
  | mention t m rest => t ++ (m.text ++ rest.text)

/-- The text with each reference replaced by its value. -/
def filled (env : Environment) : Parts → List Char
  | plain t => t
  | mention t m rest => t ++ (m.value env ++ rest.filled env)

/-- No reference begins inside the first `n` characters of a text, wherever it would end. -/
def Clear (n : Nat) (cs : List Char) : Prop := ∀ i < n, ¬Opens (cs.drop i)

/-- What the text is cut at are references, and no other reference begins in it outside of them. -/
def Sound : Parts → Prop
  | plain t => Clear t.length t
  | mention t m rest => Clear t.length (mention t m rest).text ∧ m.WellFormed ∧ rest.Sound

/-- The parts with one more character in front. -/
def cons (c : Char) : Parts → Parts
  | plain t => plain (c :: t)
  | mention t m rest => mention (c :: t) m rest

variable {p p' : Parts}

/-- Parts are made by putting references and single characters in front of what is there. -/
theorem byFirst {motive : Parts → Prop} (nil : motive (plain []))
    (mention : ∀ m rest, motive rest → motive (mention [] m rest)) (cons : ∀ c p, motive p → motive (p.cons c))
    (p : Parts) : motive p := by
  induction p with
  | plain t =>
    induction t with
    | nil => exact nil
    | cons c t ih => exact cons c (plain t) ih
  | mention t m rest ih =>
    induction t with
    | nil => exact mention m rest ih
    | cons c t ih' => exact cons c (Parts.mention t m rest) ih'

theorem text_cons (c : Char) (p : Parts) : (p.cons c).text = c :: p.text := by
  cases p <;> rfl

theorem filled_cons (env : Environment) (c : Char) (p : Parts) : (p.cons c).filled env = c :: p.filled env := by
  cases p <;> rfl

theorem clear_succ {n : Nat} : Clear (n + 1) (c :: cs) ↔ ¬Opens (c :: cs) ∧ Clear n cs := by
  constructor
  · exact fun clear => ⟨clear 0 (Nat.succ_pos n), fun i below => clear (i + 1) (Nat.succ_lt_succ below)⟩
  · rintro ⟨first, others⟩ i below
    cases i with
    | zero => exact first
    | succ i => exact others i (Nat.lt_of_succ_lt_succ below)

theorem sound_cons : (p.cons c).Sound ↔ ¬Opens (c :: p.text) ∧ p.Sound := by
  cases p with
  | plain t => exact clear_succ
  | mention t m rest =>
    simp only [cons, Sound, text, List.cons_append, List.length_cons, clear_succ, and_assoc]

theorem sound_mention : (mention [] m p).Sound ↔ m.WellFormed ∧ p.Sound := by
  simp [Sound, Clear]

/-- Each text can be cut so: reading from the left, a reference is cut off where one begins. -/
theorem exists_sound (cs : List Char) : ∃ p : Parts, p.text = cs ∧ p.Sound := by
  -- Induction on the length: a reference at the beginning is cut off, else the first character is.
  induction left : cs.length using Nat.strongRecOn generalizing cs with
  | ind n ih =>
    subst left
    cases read : Reference.read? cs with
    | some r =>
      obtain ⟨m, wellFormed, split, -⟩ := Reference.exists_of_read? read
      obtain ⟨p, text, sound⟩ := ih _ (Reference.length_read? read) r.rest rfl
      exact ⟨mention [] m p, by rw [split, ← text]; rfl, sound_mention.mpr ⟨wellFormed, sound⟩⟩
    | none =>
      cases cs with
      | nil => exact ⟨plain [], rfl, fun i below => (by cases below)⟩
      | cons c cs =>
        obtain ⟨p, rfl, sound⟩ := ih _ (Nat.lt_succ_self _) cs rfl
        refine ⟨p.cons c, text_cons c p, sound_cons.mpr ⟨fun opens => ?_, sound⟩⟩
        obtain ⟨r, found⟩ := opens_iff.mp opens
        rw [read] at found
        cases found

/-- A text is cut so in one way only. -/
theorem Sound.unique (sound : p.Sound) (sound' : p'.Sound) (same : p.text = p'.text) : p = p' := by
  induction p using byFirst generalizing p' with
  | nil =>
    cases p' using byFirst with
    | nil => rfl
    | mention m' rest' => cases same
    | cons c p' => rw [text_cons] at same; cases same
  | mention m rest ih =>
    obtain ⟨wellFormed, others⟩ := sound_mention.mp sound
    cases p' using byFirst with
    | nil => cases same
    | mention m' rest' =>
      obtain ⟨wellFormed', others'⟩ := sound_mention.mp sound'
      obtain ⟨rfl, tails⟩ := Mention.text_append_inj wellFormed wellFormed' same
      rw [ih others others' tails]
    | cons c p' =>
      rw [text_cons] at same
      exact absurd ⟨m, wellFormed, rest.text, same⟩ (sound_cons.mp sound').1
  | cons c p ih =>
    rw [text_cons] at same
    obtain ⟨closed, others⟩ := sound_cons.mp sound
    cases p' using byFirst with
    | nil => cases same
    | mention m' rest' =>
      exact absurd ⟨m', (sound_mention.mp sound').1, rest'.text, same.symm⟩ closed
    | cons c' p' =>
      rw [text_cons, List.cons.injEq] at same
      obtain ⟨rfl, tails⟩ := same
      rw [ih others (sound_cons.mp sound').2 tails]

end Parts

/-! ### Replacing -/

theorem expand_of_read? (env : Environment) (read : Reference.read? cs = some r) :
    env.expand cs = r.value env ++ env.expand r.rest := by
  rw [expand]
  split
  · rename_i r' read'
    rw [read] at read'
    cases read'
    rfl
  · rename_i unread
    rw [read] at unread
    cases unread

theorem expand_cons_of_closed (env : Environment) (closed : ¬Opens (c :: cs)) :
    env.expand (c :: cs) = c :: env.expand cs := by
  rw [expand]
  split
  · rename_i r read
    exact absurd (opens_iff.mpr ⟨r, read⟩) closed
  · rfl

theorem expand_text (env : Environment) {p : Parts} (sound : p.Sound) : env.expand p.text = p.filled env := by
  induction p using Parts.byFirst with
  | nil => simp [Parts.text, Parts.filled, expand, Reference.read?]
  | mention m rest ih =>
    obtain ⟨wellFormed, others⟩ := Parts.sound_mention.mp sound
    have read := Reference.read?_text wellFormed rest.text
    show env.expand (m.text ++ rest.text) = m.value env ++ rest.filled env
    rw [expand_of_read? env read, ih others]
    rfl
  | cons c p ih =>
    obtain ⟨closed, others⟩ := Parts.sound_cons.mp sound
    rw [Parts.text_cons, Parts.filled_cons, expand_cons_of_closed env closed, ih others]

/-- Each text can be cut in one way into references and texts in which none begins, and replacing the references of the
    text replaces these by their values and nothing else, whatever the values and defaults are. -/
theorem expand_by_parts (cs : List Char) :
    ∃ p : Parts, p.text = cs ∧ p.Sound ∧ (∀ p' : Parts, p'.text = cs → p'.Sound → p' = p) ∧
      ∀ env : Environment, env.expand cs = p.filled env := by
  obtain ⟨p, rfl, sound⟩ := Parts.exists_sound cs
  exact ⟨p, rfl, sound, fun p' same sound' => sound'.unique sound same, fun env => expand_text env sound⟩

-- References inside one another, in a default and left open; the value looks like a reference itself.
example : expand ⟨fun name => if name = "A" then some "$\x7bB\x7d" else none⟩
    "$\x7b$\x7bA\x7d\x7d $\x7bC:-$\x7bA\x7d\x7d $\x7bA".toList =
      "$\x7b$\x7bB\x7d\x7d $\x7bA\x7d $\x7bA".toList := by cbv

end Environment
end StoreAccess
