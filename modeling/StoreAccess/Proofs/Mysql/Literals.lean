import Mathlib.Data.List.Basic
import StoreAccess.Mysql.Session
import StoreAccess.Proofs.Config.Checks

/-! String literals as a database server reads them: a doubled quote stands for a quote, and a backslash escapes the
    character behind it. The statements that set session variables double quotes and leave backslashes as they are,
    so they set a variable to the very text that is configured iff each backslash in it stands before a wildcard of
    patterns, where it means itself. Any other backslash changes the text or lets it out of its literal. -/

namespace StoreAccess
namespace Mysql

/-! ### How a server reads -/

/-- What a backslash and the character behind it stand for. A backslash before a wildcard stays where it is. -/
def unescaped (c : Char) : List Char :=
  match c with
  | '0' => ['\x00']
  | 'b' => ['\x08']
  | 'n' => ['\n']
  | 'r' => ['\r']
  | 't' => ['\t']
  | 'Z' => ['\x1a']
  | '%' => ['\\', '%']
  | '_' => ['\\', '_']
  | c => [c]

/-- Reads a literal behind its opening quote: the text it denotes, and what follows its closing quote. -/
def literalTail? : List Char → Option (List Char × List Char)
  | [] => none
  | '\\' :: c :: rest => (literalTail? rest).map (Prod.map (unescaped c ++ ·) id)
  | '\'' :: '\'' :: rest => (literalTail? rest).map (Prod.map ('\'' :: ·) id)
  | '\'' :: rest => some ([], rest)
  | c :: rest => (literalTail? rest).map (Prod.map (c :: ·) id)

/-- Reads a statement that sets one variable of the session to one literal, and does nothing else. -/
def assignment? (statement : String) : Option (String × String) := do
  let rest ← "SET SESSION ".toList.isPrefixOf? statement.toList
  let tail ← " = '".toList.isPrefixOf? (rest.dropWhile (· ≠ ' '))
  let (value, after) ← literalTail? tail
  if after = [] then some (String.ofList (rest.takeWhile (· ≠ ' ')), String.ofList value) else none

variable {c : Char} {value denoted after rest : List Char}

theorem literalTail?_backslash (c : Char) (rest : List Char) :
    literalTail? ('\\' :: c :: rest) = (literalTail? rest).map (Prod.map (unescaped c ++ ·) id) := by
  rw [literalTail?]

theorem literalTail?_quotes (rest : List Char) :
    literalTail? ('\'' :: '\'' :: rest) = (literalTail? rest).map (Prod.map ('\'' :: ·) id) := by
  rw [literalTail?]

theorem literalTail?_quote (single : c ≠ '\'') : literalTail? ('\'' :: c :: rest) = some ([], c :: rest) := by
  rw [literalTail?]
  rintro rest' ⟨⟩
  exact single rfl

theorem literalTail?_plain (unescaped : c ≠ '\\') (unquoted : c ≠ '\'') :
    literalTail? (c :: rest) = (literalTail? rest).map (Prod.map (c :: ·) id) := by
  rw [literalTail?]
  · exact fun _ _ same _ => unescaped same
  · exact fun _ same _ => unquoted same
  · exact unquoted

/-- A backslash and a character are two characters of a text again before wildcards, and one otherwise. -/
theorem length_unescaped (c : Char) : (unescaped c).length = if c = '%' ∨ c = '_' then 2 else 1 := by
  unfold unescaped
  split <;> simp_all

/-! ### What is written -/

/-- How a character stands in a literal. -/
def quoted (c : Char) : List Char := if c = '\'' then ['\'', '\''] else [c]

/-- What is written of a text behind the opening quote. -/
def literalBody (value : List Char) : List Char := value.flatMap quoted ++ ['\'']

theorem literal_eq (value : List Char) : literal value = '\'' :: literalBody value := rfl

theorem literalBody_quote (value : List Char) : literalBody ('\'' :: value) = '\'' :: '\'' :: literalBody value := rfl

theorem literalBody_cons (unquoted : c ≠ '\'') (value : List Char) :
    literalBody (c :: value) = c :: literalBody value := by
  rw [literalBody, List.flatMap_cons, quoted, if_neg unquoted]
  rfl

/-- Each backslash of a text stands right before a wildcard. -/
def backslashesBeforeWildcards : List Char → Bool
  | [] => true
  | '\\' :: c :: rest => (c = '%' || c = '_') && backslashesBeforeWildcards rest
  | c :: rest => c ≠ '\\' && backslashesBeforeWildcards rest

theorem backslashesBeforeWildcards_plain (plain : c ≠ '\\') :
    backslashesBeforeWildcards (c :: rest) = backslashesBeforeWildcards rest := by
  rw [backslashesBeforeWildcards, decide_eq_true plain, Bool.true_and]
  exact fun _ _ same _ => plain same

/-- A backslash that nothing stands behind is the last character. -/
theorem eq_nil_of_unpaired (unpaired : ∀ c' rest', c = '\\' → rest = c' :: rest' → False) (backslash : c = '\\') :
    rest = [] := by
  cases rest with
  | nil => rfl
  | cons c' rest => exact (unpaired c' rest backslash rfl).elim

/-- One quote too many, as after a backslash that took the first of two, and the literal never ends where the
    statement does. -/
theorem literalTail?_overrun (read : literalTail? ('\'' :: literalBody value) = some (denoted, after)) :
    after ≠ [] := by
  induction value generalizing denoted with
  | nil => cases read
  | cons c value ih =>
    by_cases quote : c = '\''
    · rw [quote, literalBody_quote, literalTail?_quotes, Option.map_eq_some_iff] at read
      obtain ⟨⟨denoted', after'⟩, read, same⟩ := read
      cases same
      exact ih read
    · rw [literalBody_cons quote, literalTail?_quote quote] at read
      cases read
      exact List.cons_ne_nil _ _

theorem literalTail?_of_wildcards (harmless : backslashesBeforeWildcards value = true) :
    literalTail? (literalBody value) = some (value, []) := by
  induction value using backslashesBeforeWildcards.induct with
  | case1 => rfl
  | case2 c value ih =>
    rw [backslashesBeforeWildcards, Bool.and_eq_true] at harmless
    obtain ⟨wildcard, harmless⟩ := harmless
    have kept : unescaped c = ['\\', c] ∧ c ≠ '\'' := by
      rcases Bool.or_eq_true _ _ ▸ wildcard with wild | wild <;> rw [of_decide_eq_true wild] <;> decide
    rw [literalBody_cons (by decide), literalBody_cons kept.2, literalTail?_backslash, ih harmless, Option.map_some,
      Prod.map, kept.1]
    rfl
  | case3 c value unpaired ih =>
    by_cases backslash : c = '\\'
    · rw [eq_nil_of_unpaired unpaired backslash, backslash] at harmless
      cases harmless
    · rw [backslashesBeforeWildcards_plain backslash] at harmless
      by_cases quote : c = '\''
      · rw [quote, literalBody_quote, literalTail?_quotes, ih harmless]
        rfl
      · rw [literalBody_cons quote, literalTail?_plain backslash quote, ih harmless]
        rfl

/-- A literal that ends with its statement denotes no more characters than were to be written, and fewer if a
    backslash was taken for an escape. -/
theorem length_of_literalTail? (read : literalTail? (literalBody value) = some (denoted, [])) :
    denoted.length ≤ value.length ∧ (denoted.length = value.length → backslashesBeforeWildcards value = true) := by
  induction value using backslashesBeforeWildcards.induct generalizing denoted with
  | case1 =>
    cases read
    exact ⟨Nat.le_refl _, fun _ => rfl⟩
  | case2 c value ih =>
    by_cases quote : c = '\''
    · -- The backslash takes the first of two quotes, so one is left over.
      rw [quote, literalBody_cons (by decide), literalBody_quote, literalTail?_backslash,
        Option.map_eq_some_iff] at read
      obtain ⟨⟨denoted', after'⟩, read, same⟩ := read
      cases same
      exact absurd rfl (literalTail?_overrun read)
    · rw [literalBody_cons (by decide), literalBody_cons quote, literalTail?_backslash, Option.map_eq_some_iff] at read
      obtain ⟨⟨denoted', after'⟩, read, same⟩ := read
      cases same
      obtain ⟨le, harmless⟩ := ih read
      have escape := length_unescaped c
      rw [backslashesBeforeWildcards]
      simp only [List.length_append, List.length_cons]
      split at escape
      · refine ⟨by omega, fun same => ?_⟩
        rw [harmless (by omega)]
        simpa
      · exact ⟨by omega, fun same => by omega⟩
  | case3 c value unpaired ih =>
    by_cases backslash : c = '\\'
    · -- The backslash takes the closing quote.
      rw [eq_nil_of_unpaired unpaired backslash, backslash] at read
      cases read
    · rw [backslashesBeforeWildcards_plain backslash]
      have tail : ∃ denoted', denoted = c :: denoted' ∧ literalTail? (literalBody value) = some (denoted', []) := by
        by_cases quote : c = '\''
        · rw [quote, literalBody_quote, literalTail?_quotes, Option.map_eq_some_iff] at read
          obtain ⟨⟨denoted', after'⟩, read, same⟩ := read
          cases same
          exact ⟨denoted', by rw [quote], read⟩
        · rw [literalBody_cons quote, literalTail?_plain backslash quote, Option.map_eq_some_iff] at read
          obtain ⟨⟨denoted', after'⟩, read, same⟩ := read
          cases same
          exact ⟨denoted', rfl, read⟩
      obtain ⟨denoted', rfl, shorter⟩ := tail
      obtain ⟨le, harmless⟩ := ih shorter
      exact ⟨Nat.succ_le_succ le, fun same => harmless (Nat.succ.inj same)⟩

/-- The literal of a text is read as one literal that denotes the text iff the text has no backslash but before
    wildcards. -/
theorem literalTail?_eq_some_iff :
    literalTail? (literalBody value) = some (value, []) ↔ backslashesBeforeWildcards value = true :=
  ⟨fun read => (length_of_literalTail? read).2 rfl, literalTail?_of_wildcards⟩

/-! ### Statements -/

theorem setVariable_toList (name value : String) :
    (setVariable name value).toList =
      "SET SESSION ".toList ++ (name.toList ++ (" = '".toList ++ literalBody value.toList)) := by
  simp [setVariable, literal_eq]

theorem ne_space_of_isVariableName {name : String} (valid : RelationalConfig.isVariableName name = true) :
    ∀ c ∈ name.toList, (c ≠ ' ') := by
  rw [RelationalConfig.isVariableName, Bool.and_eq_true, List.all_eq_true] at valid
  rintro c there rfl
  exact absurd (valid.2 ' ' there) (by decide)

theorem assignment?_setVariable {name value : String} (valid : RelationalConfig.isVariableName name = true) :
    assignment? (setVariable name value) = some (name, value) ↔ backslashesBeforeWildcards value.toList = true := by
  have inName : ∀ c ∈ name.toList, decide (c ≠ ' ') = true := fun c there =>
    decide_eq_true (ne_space_of_isVariableName valid c there)
  have before : (name.toList ++ (" = '".toList ++ literalBody value.toList)).takeWhile (· ≠ ' ') = name.toList := by
    rw [List.takeWhile_append_of_pos inName]
    exact List.append_nil _
  have behind : (name.toList ++ (" = '".toList ++ literalBody value.toList)).dropWhile (· ≠ ' ') =
      " = '".toList ++ literalBody value.toList := by
    rw [List.dropWhile_append_of_pos inName]
    rfl
  have opened (start rest : List Char) : start.isPrefixOf? (start ++ rest) = some rest :=
    List.isPrefixOf?_eq_some_iff_append_eq.mpr rfl
  rw [assignment?, setVariable_toList, opened, ← literalTail?_eq_some_iff]
  simp only [Option.bind_eq_bind, Option.bind_some, before, behind, opened]
  rw [Option.bind_eq_some_iff]
  constructor
  · rintro ⟨⟨denoted, after⟩, read, same⟩
    dsimp only at same
    split at same
    · rename_i ends
      obtain ⟨-, value⟩ := Prod.mk.inj (Option.some.inj same)
      rw [read, ends, ← String.toList_ofList (l := denoted), value]
    · cases same
  · intro read
    refine ⟨_, read, ?_⟩
    simp

theorem ClientOptions.mem_statements {c : RelationalConfig} {pool : PoolSettings} {statement : String} :
    statement ∈ (ofConfig c pool).statements ↔
      ∃ name value, c.params.get? name = some value ∧ setVariable name value = statement := by
  simp only [ofConfig, Dict.sorted, List.mem_map, List.mem_mergeSort, Prod.exists, Dict.get?_eq_some_iff]

/-- A new session sets each variable of an accepted configuration, and nothing else. A statement sets its variable to
    the configured text, in one literal that ends where the statement does, iff that text has no backslash but before
    wildcards. -/
theorem session_set_by_literals {c : RelationalConfig} (accepted : c.check = .ok ()) (pool : PoolSettings) :
    (∀ statement, statement ∈ (ClientOptions.ofConfig c pool).statements ↔
      ∃ name value, c.params.get? name = some value ∧ setVariable name value = statement) ∧
    ∀ name value, c.params.get? name = some value →
      (assignment? (setVariable name value) = some (name, value) ↔
        backslashesBeforeWildcards value.toList = true) := by
  refine ⟨fun statement => ClientOptions.mem_statements, fun name value given => assignment?_setVariable ?_⟩
  obtain ⟨-, -, -, -, valid⟩ := RelationalConfig.check_eq_ok_iff.mp accepted
  exact valid (name, value) (Dict.get?_eq_some_iff.mp given)

/-- A shop that sets one session variable. -/
def shopWith (name value : String) : RelationalConfig :=
  (RelationalConfig.ofTarget "app" ⟨"pw"⟩ "127.0.0.1" 3306 "shop").withParam name value

/-- Quotes side by side, at both ends and behind a wildcard that keeps its backslash. -/
theorem quotes_set_by_literals :
    let c := shopWith "init_connect" "'it''s' 5\\%'"
    c.check = .ok () ∧ setVariable "init_connect" "'it''s' 5\\%'" ∈ (ClientOptions.ofConfig c c.pool).statements ∧
      assignment? "SET SESSION init_connect = '''it''''s'' 5\\%'''" = some ("init_connect", "'it''s' 5\\%'") := by
  intro c
  have accepted : c.check = .ok () := RelationalConfig.check_eq_ok_iff.mpr (by decide)
  have given : c.params.get? "init_connect" = some "'it''s' 5\\%'" := rfl
  obtain ⟨statements, literals⟩ := session_set_by_literals accepted c.pool
  exact ⟨accepted, (statements _).mpr ⟨_, _, given, rfl⟩, (literals _ _ given).mpr rfl⟩

/-- A backslash before a quote ends the literal at that quote, and what is configured behind it is carried out. -/
theorem backslash_lets_text_out :
    let value := "\\', autocommit = 0 -- "
    let c := shopWith "init_connect" value
    let statement := "SET SESSION init_connect = '\\'', autocommit = 0 -- '"
    c.check = .ok () ∧ c.params.get? "init_connect" = some value ∧
      statement ∈ (ClientOptions.ofConfig c c.pool).statements ∧ setVariable "init_connect" value = statement ∧
      literalTail? (literalBody value.toList) = some (['\''], ", autocommit = 0 -- '".toList) ∧
      assignment? statement = none := by
  intro value c statement
  have accepted : c.check = .ok () := RelationalConfig.check_eq_ok_iff.mpr (by decide)
  have built : setVariable "init_connect" value = statement := by decide
  exact ⟨accepted, rfl, ClientOptions.mem_statements.mpr ⟨_, value, rfl, built⟩, built, by decide, by decide⟩

end Mysql
end StoreAccess
