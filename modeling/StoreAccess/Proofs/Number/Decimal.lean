import Mathlib.Algebra.Group.Nat.Defs
import StoreAccess.Number.FloatLiteral
import StoreAccess.Text.Blank

/-! Decimal digits: what is written of a natural number, also filled up with zeros to a width, has its value,
    and a run of digits has a value below the power of ten that its length gives. -/

namespace StoreAccess

open FloatLiteral (isDigit digitsValue)

variable {c : Char} {ds : List Char} {n width : Nat}

/-! ### Digits -/

theorem isDigit_eq (c : Char) : isDigit c = c.isDigit := by
  have range : ('0' ≤ c ∧ c ≤ '9') ↔ c.isDigit = true := by
    simp only [Char.isDigit, Char.le_def, Bool.and_eq_true, decide_eq_true_eq, ge_iff_le]
  by_cases digit : c.isDigit = true
  · rw [isDigit, IntLiteral.digit?, if_pos (range.mpr digit), digit, Option.isSome_some]
  · rw [isDigit, IntLiteral.digit?, if_neg fun inside => digit (range.mp inside), Option.isSome_none]
    exact (Bool.eq_false_iff.mpr digit).symm

theorem digit?_of_isDigit (digit : isDigit c = true) : IntLiteral.digit? c = some (c.toNat - 48) := by
  unfold isDigit IntLiteral.digit? at digit
  split at digit
  · rename_i inside
    exact if_pos inside
  · cases digit

theorem toNat_of_isDigit (digit : isDigit c = true) : 48 ≤ c.toNat ∧ c.toNat ≤ 57 := by
  rw [isDigit_eq, Char.isDigit, Bool.and_eq_true, decide_eq_true_eq, decide_eq_true_eq] at digit
  exact digit

theorem isBlank_of_isDigit (digit : isDigit c = true) : Text.isBlank c = false := by
  obtain ⟨low, high⟩ := toNat_of_isDigit digit
  simp only [Text.isBlank, Text.CharSet.contains, Text.blanks, List.any_cons, List.any_nil]
  grind

/-! ### Values -/

theorem digitsValue_eq (digits : ∀ c ∈ ds, isDigit c = true) : digitsValue ds = Nat.ofDigitChars 10 ds 0 := by
  suffices ∀ n, ds.foldl (fun n c => n * 10 + (IntLiteral.digit? c).getD 0) n = Nat.ofDigitChars 10 ds n from this 0
  induction ds with
  | nil => exact fun n => rfl
  | cons c ds ih =>
    intro n
    rw [List.foldl_cons, Nat.ofDigitChars_cons, ih fun d hd => digits d (List.mem_cons_of_mem c hd),
      digit?_of_isDigit (digits c List.mem_cons_self), Nat.mul_comm]
    rfl

theorem digitsValue_lt (digits : ∀ c ∈ ds, isDigit c = true) : digitsValue ds < 10 ^ ds.length := by
  rw [digitsValue_eq digits]
  induction ds with
  | nil => simp
  | cons c ds ih =>
    have tail := ih fun d hd => digits d (List.mem_cons_of_mem c hd)
    have head := (toNat_of_isDigit (digits c List.mem_cons_self)).2
    rw [Nat.ofDigitChars_cons, Nat.ofDigitChars_eq_ofDigitChars_zero, List.length_cons, Nat.pow_succ]
    have leading : c.toNat - '0'.toNat ≤ 9 := Nat.sub_le_iff_le_add.mpr head
    have : 10 ^ ds.length * (10 * 0 + (c.toNat - '0'.toNat)) ≤ 10 ^ ds.length * 9 :=
      Nat.mul_le_mul_left _ (by omega)
    omega

/-! ### What is written -/

theorem natText_inj {m n : Nat} (same : natText m = natText n) : m = n := by
  have value := congrArg (Nat.ofDigitChars 10 · 0) same
  simpa only [natText, Nat.ofDigitChars_ten_toDigits] using value

theorem natText_ne_nil (m : Nat) : natText m ≠ [] :=
  Nat.toDigits_ne_nil

theorem isDigit_of_mem_natText (there : c ∈ natText n) : isDigit c = true :=
  (isDigit_eq c).trans (Nat.isDigit_of_mem_toDigits (by decide) (by decide) there)

theorem isDigit_of_mem_zeros {k : Nat} (there : c ∈ List.replicate k '0') : isDigit c = true := by
  rw [List.eq_of_mem_replicate there]
  rfl

theorem isDigit_of_mem_padded (there : c ∈ padded width n) : isDigit c = true :=
  (List.mem_append.mp there).elim isDigit_of_mem_zeros isDigit_of_mem_natText

theorem length_padded (wide : 0 < width) (small : n < 10 ^ width) : (padded width n).length = width := by
  have := (Nat.length_toDigits_le_iff (b := 10) (by decide) wide).mpr small
  simp only [padded, natText, List.length_append, List.length_replicate]
  omega

theorem padded_ne_nil : padded width n ≠ [] := by
  simp [padded, natText, Nat.toDigits_ne_nil]

theorem digitsValue_padded : digitsValue (padded width n) = n := by
  rw [digitsValue_eq fun c => isDigit_of_mem_padded, padded, natText, Nat.ofDigitChars_append,
    Nat.ofDigitChars_replicate_zero, Nat.mul_zero, Nat.ofDigitChars_ten_toDigits]

theorem digitsValue_natText (n : Nat) : digitsValue (natText n) = n := by
  rw [digitsValue_eq fun c => isDigit_of_mem_natText]
  exact Nat.ofDigitChars_ten_toDigits

theorem digitsValue_natText_zeros (n k : Nat) : digitsValue (natText n ++ List.replicate k '0') = n * 10 ^ k := by
  have digits : ∀ c ∈ natText n ++ List.replicate k '0', isDigit c = true :=
    fun c there => (List.mem_append.mp there).elim isDigit_of_mem_natText isDigit_of_mem_zeros
  rw [digitsValue_eq digits, natText, Nat.ofDigitChars_append, Nat.ofDigitChars_ten_toDigits,
    Nat.ofDigitChars_replicate_zero, Nat.mul_comm]

theorem trimStart_padded (rest : List Char) : Text.trimStart (padded width n ++ rest) = padded width n ++ rest := by
  obtain ⟨c, ds, written⟩ := List.exists_cons_of_ne_nil (@padded_ne_nil n width)
  have digit : isDigit c = true := isDigit_of_mem_padded (written ▸ List.mem_cons_self)
  rw [written, List.cons_append, Text.trimStart, List.dropWhile_cons_of_neg (by rw [isBlank_of_isDigit digit]; decide)]

end StoreAccess
