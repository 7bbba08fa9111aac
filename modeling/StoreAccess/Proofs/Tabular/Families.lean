import Mathlib.Data.List.TakeWhile
import StoreAccess.Tabular.Column

/-! Families of declared types. After its leading blanks a declared type begins with a token, which ends at the next
    blank or parenthesis. The family is the one that the token is listed under, whatever its case, and text if it is
    listed under none. What stands around the token does not count. -/

namespace StoreAccess

variable {cs declared padding tail : List Char} {c : Char}

namespace Text

/-! ### Lower case -/

theorem toNat_lowerAsciiChar_of_upper (upper : 'A' ≤ c ∧ c ≤ 'Z') :
    65 ≤ c.toNat ∧ c.toNat ≤ 90 ∧ (lowerAsciiChar c).toNat = c.toNat + 32 := by
  have low : 65 ≤ c.toNat := upper.1
  have high : c.toNat ≤ 90 := upper.2
  have valid : (c.toNat + 32).isValidChar := Or.inl (by omega)
  refine ⟨low, high, ?_⟩
  rw [lowerAsciiChar, if_pos upper, Char.ofNat, dif_pos valid]
  rfl

/-- Neither capital letters nor small ones are blank. -/
theorem isBlank_lowerAsciiChar (c : Char) : isBlank (lowerAsciiChar c) = isBlank c := by
  by_cases upper : 'A' ≤ c ∧ c ≤ 'Z'
  · obtain ⟨low, high, lowered⟩ := toNat_lowerAsciiChar_of_upper upper
    simp only [isBlank, CharSet.contains, blanks, List.any_cons, List.any_nil, lowered]
    grind
  · rw [lowerAsciiChar, if_neg upper]

theorem lowerAsciiChar_eq_paren_iff : lowerAsciiChar c = '(' ↔ c = '(' := by
  by_cases upper : 'A' ≤ c ∧ c ≤ 'Z'
  · obtain ⟨low, -, lowered⟩ := toNat_lowerAsciiChar_of_upper upper
    refine iff_of_false (fun same => ?_) fun same => ?_
    · rw [same] at lowered
      change 40 = _ at lowered
      omega
    · rw [same] at low
      exact absurd low (by decide)
  · rw [lowerAsciiChar, if_neg upper]

theorem takeWhile_lowerAscii (cs : List Char) :
    (lowerAscii cs).takeWhile (· ≠ '(') = lowerAscii (cs.takeWhile (· ≠ '(')) := by
  have same : (fun c => decide (c ≠ '(')) ∘ lowerAsciiChar = fun c => decide (c ≠ '(') :=
    funext fun c => decide_eq_decide.mpr (not_congr lowerAsciiChar_eq_paren_iff)
  rw [lowerAscii, List.takeWhile_map, same, lowerAscii]

theorem firstWord_lowerAscii (cs : List Char) : firstWord (lowerAscii cs) = lowerAscii (firstWord cs) := by
  have blank : isBlank ∘ lowerAsciiChar = isBlank := funext isBlank_lowerAsciiChar
  have unblank : (fun c => !isBlank c) ∘ lowerAsciiChar = fun c => !isBlank c :=
    funext fun c => congrArg (!·) (isBlank_lowerAsciiChar c)
  rw [firstWord, trimStart, lowerAscii, List.dropWhile_map, blank, List.takeWhile_map, unblank, firstWord, trimStart,
    lowerAscii]

/-! ### Trimming -/

theorem exists_blanks_of_trimEnd (cs : List Char) :
    ∃ blanks, cs = trimEnd cs ++ blanks ∧ ∀ c ∈ blanks, isBlank c = true := by
  refine ⟨(cs.reverse.takeWhile isBlank).reverse, ?_, fun c there => ?_⟩
  · rw [trimEnd, ← List.reverse_append, List.takeWhile_append_dropWhile, List.reverse_reverse]
  · exact List.mem_takeWhile_imp (List.mem_reverse.mp there)

/-- What has no blanks in front any more begins with none. -/
theorem trimStart_of_isPrefix {start : List Char} (front : start <+: trimStart cs) : trimStart start = start := by
  cases start with
  | nil => rfl
  | cons c start =>
    obtain ⟨rest, whole⟩ := front
    have first := List.head?_dropWhile_not isBlank cs
    rw [← trimStart, ← whole] at first
    exact List.dropWhile_cons_of_neg (Bool.eq_false_iff.mp first)

end Text

namespace Family

open Text

/-! ### Tokens -/

/-- A character of a token. -/
def inToken (c : Char) : Bool := !isBlank c && decide (c ≠ '(')

/-- The token of a declared type: what follows the leading blanks, up to the next blank or parenthesis. -/
def token (declared : List Char) : List Char := (trimStart declared).takeWhile inToken

theorem inToken_eq_false_iff : inToken c = false ↔ isBlank c = true ∨ c = '(' := by
  cases blank : isBlank c <;> simp [inToken, blank]

/-- Where a token has ended nothing is added to it. -/
theorem takeWhile_inToken_append (ended : ∀ c ∈ tail.head?, inToken c = false) (cs : List Char) :
    (cs ++ tail).takeWhile inToken = cs.takeWhile inToken := by
  have nothing : tail.takeWhile inToken = [] := by
    cases tail with
    | nil => rfl
    | cons c tail => exact List.takeWhile_cons_of_neg (Bool.eq_false_iff.mp (ended c rfl))
  rw [List.takeWhile_append, nothing, List.append_nil]
  split
  · rename_i all
    exact ((List.takeWhile_prefix inToken).eq_of_length all).symm
  · rfl

/-- The bare name is the token in lower case: a type is cut at the same places before and after it is lowered. -/
theorem bareName_eq (declared : List Char) : bareName declared = lowerAscii (token declared) := by
  obtain ⟨blanks, whole, blank⟩ := exists_blanks_of_trimEnd (trimStart declared)
  have ended : ∀ c ∈ blanks.head?, inToken c = false := fun c there =>
    inToken_eq_false_iff.mpr (Or.inl (blank c (List.mem_of_mem_head? there)))
  have front : (trim declared).takeWhile (· ≠ '(') <+: trimStart declared :=
    (List.takeWhile_prefix _).trans ⟨blanks, whole.symm⟩
  have both : (fun c => decide ((!isBlank c) = true ∧ decide (c ≠ '(') = true)) = inToken :=
    funext fun c => by simp [inToken]
  calc bareName declared = firstWord (lowerAscii ((trim declared).takeWhile (· ≠ '('))) := by
        rw [bareName, takeWhile_lowerAscii]
    _ = lowerAscii (((trim declared).takeWhile (· ≠ '(')).takeWhile fun c => !isBlank c) := by
        rw [firstWord_lowerAscii, firstWord, trimStart_of_isPrefix front]
    _ = lowerAscii ((trim declared).takeWhile inToken) := by rw [List.takeWhile_takeWhile, both]
    _ = lowerAscii (token declared) := by rw [token, whole, takeWhile_inToken_append ended, trim]

/-- Blanks in front of a declared type that has a token, and what a blank or a parenthesis begins behind it, do not
    change the token. -/
theorem token_append (named : token declared ≠ []) (blank : ∀ c ∈ padding, isBlank c = true)
    (ended : ∀ c ∈ tail.head?, isBlank c = true ∨ c = '(') :
    token (padding ++ (declared ++ tail)) = token declared := by
  have visible : trimStart declared ≠ [] := fun empty => named (by rw [token, empty]; rfl)
  have front : trimStart (padding ++ (declared ++ tail)) = trimStart (declared ++ tail) :=
    List.dropWhile_append_of_pos blank
  have back : trimStart (declared ++ tail) = trimStart declared ++ tail := by
    rw [trimStart, List.dropWhile_append, ← trimStart, if_neg (by rwa [List.isEmpty_iff])]
  rw [token, front, back, takeWhile_inToken_append fun c there => inToken_eq_false_iff.mpr (ended c there), token]

/-! ### Families -/

/-- The names that are listed under a family. Text has none of its own. -/
def names : Family → List String
  | integer => ["integer", "int", "tinyint", "smallint", "mediumint", "bigint"]
  | float => ["double", "float", "decimal", "real", "numeric"]
  | boolean => ["bool", "boolean"]
  | datetime => ["datetime", "timestamp"]
  | text => []

/-- The family of a name: the one it is listed under, or text for a name that is listed under none. -/
def IsOf (name : String) (family : Family) : Prop :=
  name ∈ family.names ∨ family = text ∧ ∀ other : Family, name ∉ other.names

theorem ofBareName_of_mem {family : Family} : ∀ name ∈ family.names, ofBareName name = family := by
  cases family <;> decide

theorem isOf_ofBareName (name : String) : IsOf name (ofBareName name) := by
  unfold ofBareName
  split
  · exact Or.inl (List.contains_iff_mem.mp ‹_›)
  · split
    · exact Or.inl (List.contains_iff_mem.mp ‹_›)
    · split
      · exact Or.inl (List.contains_iff_mem.mp ‹_›)
      · split
        · exact Or.inl (List.contains_iff_mem.mp ‹_›)
        · rename_i integer float boolean datetime
          rw [List.contains_iff_mem] at integer float boolean datetime
          refine Or.inr ⟨rfl, fun other => ?_⟩
          cases other
          exacts [integer, float, boolean, datetime, List.not_mem_nil]

theorem ofBareName_eq_iff {name : String} {family : Family} : ofBareName name = family ↔ IsOf name family := by
  constructor
  · rintro rfl
    exact isOf_ofBareName name
  · rintro (listed | ⟨rfl, unlisted⟩)
    · exact ofBareName_of_mem name listed
    · exact (isOf_ofBareName name).elim (fun listed => absurd listed (unlisted _)) And.left

/-- The family of a declared type is the one that its token, in lower case, is listed under, and text if that is listed
    under none, as no token at all is. So types whose tokens are the same but for their case are of one family, and
    blanks around a type, a precision in parentheses and what follows after a blank do not change it. -/
theorem ofTypeName_by_token (declared : String) :
    (∀ family, ofTypeName declared = family ↔ IsOf (String.ofList (lowerAscii (token declared.toList))) family) ∧
      (token declared.toList = [] → ofTypeName declared = text) ∧
      (∀ other : String, lowerAscii (token other.toList) = lowerAscii (token declared.toList) →
        ofTypeName other = ofTypeName declared) ∧
      (token declared.toList ≠ [] → ∀ padding tail : List Char, (∀ c ∈ padding, isBlank c = true) →
        (∀ c ∈ tail.head?, isBlank c = true ∨ c = '(') →
          ofTypeName (String.ofList (padding ++ (declared.toList ++ tail))) = ofTypeName declared) := by
  have family (declared : String) :
      ofTypeName declared = ofBareName (String.ofList (lowerAscii (token declared.toList))) := by
    rw [ofTypeName, bareName_eq]
  refine ⟨fun _ => by rw [family, ofBareName_eq_iff], fun none => ?_, fun other same => by rw [family, family, same],
    fun named padding tail blank ended => ?_⟩
  · rw [family, none]
    rfl
  · rw [family, family, String.toList_ofList, token_append named blank ended]

/-- A wide blank before the type, a precision after another, and a modifier: an integer, as `bigint` is. A parenthesis
    in front leaves no token. -/
theorem bigint_in_surroundings :
    ofTypeName "\u3000BigInt (20) UNSIGNED" = ofTypeName "bigint" ∧ ofTypeName "bigint" = integer ∧
      ofTypeName " (bigint)" = text := by
  obtain ⟨family, -, sameToken, around⟩ := ofTypeName_by_token "BigInt"
  obtain ⟨-, tokenless, -, -⟩ := ofTypeName_by_token " (bigint)"
  have wide : ∀ c ∈ ['\u3000'], isBlank c = true := List.forall_mem_singleton.mpr (by decide)
  have precision : ∀ c ∈ " (20) UNSIGNED".toList.head?, isBlank c = true ∨ c = '(' := by
    rintro c ⟨⟩
    exact Or.inl (by decide)
  have surrounded := around (by decide +kernel) ['\u3000'] " (20) UNSIGNED".toList wide precision
  refine ⟨surrounded.trans (sameToken "bigint" (by decide +kernel)).symm, ?_, tokenless (by decide +kernel)⟩
  rw [sameToken "bigint" (by decide +kernel), family]
  exact Or.inl (by decide +kernel)

end Family
end StoreAccess
