import Mathlib.Data.List.TakeWhile
import StoreAccess.Proofs.Number.Decimal
import StoreAccess.Proofs.Number.Rounding

/-! Floating-point numbers as text, and back. The search for digits ends within the interval of the number, what is
    written of them by position is read as a fraction of that interval, and such a fraction is rounded to the number:
    every number is the one that its text is read as. -/

namespace StoreAccess

namespace Shortest.Interval

variable {i : Interval} {num den : Nat} {e place : Int}

/-! ### The search -/

theorem contains_of_lt (low : i.low * den < num * i.den) (high : num * i.den < i.high * den) :
    i.contains num den = true := by
  unfold contains
  split <;> rw [Bool.and_eq_true, decide_eq_true_eq, decide_eq_true_eq]
  · exact ⟨Nat.le_of_lt low, Nat.le_of_lt high⟩
  · exact ⟨low, high⟩

theorem low_le_of_contains (contains : i.contains num den = true) : i.low * den ≤ num * i.den := by
  unfold Interval.contains at contains
  split at contains <;> rw [Bool.and_eq_true, decide_eq_true_eq, decide_eq_true_eq] at contains
  · exact contains.1
  · exact Nat.le_of_lt contains.1

/-- What a grid gives lies in the interval. -/
theorem contains_of_onGrid? {n : Nat} (found : i.onGrid? e = some n) :
    i.contains (n * 10 ^ e.toNat) (10 ^ (-e).toNat) = true := by
  simp only [onGrid?, Nat.pow_eq] at found
  split at found
  · rename_i lower
    obtain rfl := Option.some.inj found
    exact (Bool.and_eq_true_iff.mp lower).1
  · split at found
    · rename_i upper
      obtain rfl := Option.some.inj found
      exact upper
    · cases found

/-- A grid gives a neighbour of the value if the lower one lies in the interval. -/
theorem exists_onGrid? (lower : i.contains
      (i.value * 10 ^ (-e).toNat / (i.den * 10 ^ e.toNat) * 10 ^ e.toNat) (10 ^ (-e).toNat) = true) :
    ∃ n, i.onGrid? e = some n := by
  simp only [onGrid?, Nat.pow_eq, lower, Bool.true_and]
  split
  · exact ⟨_, rfl⟩
  · rename_i farther
    rw [Bool.or_eq_true, not_or, Bool.not_eq_true', Bool.not_eq_false] at farther
    rw [if_pos farther.1]
    exact ⟨_, rfl⟩

/-- The search ends at what a grid gives, if a grid that it reaches gives something. -/
theorem onGrid?_search {fuel count k n : Nat} (first : count ≤ k) (last : k ≤ count + fuel)
    (found : i.onGrid? (place - k) = some n) :
    i.onGrid? (i.search place fuel count).2 = some (i.search place fuel count).1 := by
  induction fuel generalizing count with
  | zero =>
    obtain rfl : k = count := by omega
    simp only [search, found, Option.getD_some]
  | succ fuel ih =>
    rw [search]
    split
    · assumption
    · rename_i nothing
      have later : count ≠ k := by
        rintro rfl
        exact absurd (nothing.symm.trans found) (by simp)
      exact ih (by omega) (by omega)

end Shortest.Interval

namespace Shortest

open Shortest.Interval FloatLiteral

variable {f : FloatFormat} {m s n : Nat} {e : Int}

/-- A grid is fine enough if it divides the unit of the number. -/
theorem exists_onGrid?_ofFinite (pos : 0 < m) (fine : 4 * 2 ^ f.scale * 10 ^ e.toNat ≤ 2 ^ s * 10 ^ (-e).toNat) :
    ∃ n, (ofFinite f m s).onGrid? e = some n := by
  have up : 0 < 10 ^ e.toNat := Nat.pow_pos (by decide)
  have down : 0 < 10 ^ (-e).toNat := Nat.pow_pos (by decide)
  have unit : 0 < 2 ^ s := Nat.two_pow_pos s
  refine exists_onGrid? ?_
  simp only [ofFinite, Nat.pow_eq]
  have cell : 0 < 4 * 2 ^ f.scale * 10 ^ e.toNat := Nat.mul_pos (Nat.mul_pos (by decide) (Nat.two_pow_pos _)) up
  have floor := Nat.div_add_mod (4 * m * 2 ^ s * 10 ^ (-e).toNat) (4 * 2 ^ f.scale * 10 ^ e.toNat)
  have rest := Nat.mod_lt (4 * m * 2 ^ s * 10 ^ (-e).toNat) cell
  generalize 4 * m * 2 ^ s * 10 ^ (-e).toNat / (4 * 2 ^ f.scale * 10 ^ e.toNat) = q at *
  generalize 4 * m * 2 ^ s * 10 ^ (-e).toNat % (4 * 2 ^ f.scale * 10 ^ e.toNat) = r at *
  have point : q * 10 ^ e.toNat * (4 * 2 ^ f.scale) = 4 * 2 ^ f.scale * 10 ^ e.toNat * q := by ring
  have step : 0 < 2 ^ s * 10 ^ (-e).toNat := Nat.mul_pos unit down
  refine contains_of_lt ?_ ?_ <;> dsimp only <;> rw [point]
  · have below : (4 * m - if m = 2 ^ (f.precision - 1) ∧ 0 < s then 1 else 2) ≤ 4 * m - 1 := by
      split <;> omega
    calc _ ≤ (4 * m - 1) * 2 ^ s * 10 ^ (-e).toNat := Nat.mul_le_mul_right _ (Nat.mul_le_mul_right _ below)
      _ = (4 * m - 1) * (2 ^ s * 10 ^ (-e).toNat) := Nat.mul_assoc ..
      _ < 4 * 2 ^ f.scale * 10 ^ e.toNat * q := by
        rw [Nat.sub_mul]
        have whole : 4 * m * 2 ^ s * 10 ^ (-e).toNat = 4 * m * (2 ^ s * 10 ^ (-e).toNat) := Nat.mul_assoc ..
        have more : 1 * (2 ^ s * 10 ^ (-e).toNat) ≤ 4 * m * (2 ^ s * 10 ^ (-e).toNat) :=
          Nat.mul_le_mul_right _ (by omega)
        omega
  · calc 4 * 2 ^ f.scale * 10 ^ e.toNat * q ≤ 4 * m * (2 ^ s * 10 ^ (-e).toNat) := by
          rw [← Nat.mul_assoc]
          omega
      _ < (4 * m + 2) * (2 ^ s * 10 ^ (-e).toNat) := Nat.mul_lt_mul_of_pos_right (by omega) step
      _ = (4 * m + 2) * 2 ^ s * 10 ^ (-e).toNat := (Nat.mul_assoc ..).symm

theorem two_pow_le_ten_pow {k places : Nat} (fewer : k ≤ 3 * places) : 2 ^ k ≤ 10 ^ places :=
  calc 2 ^ k ≤ 2 ^ (3 * places) := Nat.pow_le_pow_right (by decide) fewer
    _ = 8 ^ places := Nat.pow_mul 2 3 places
    _ ≤ 10 ^ places := Nat.pow_le_pow_left (by decide) places

/-- The power of ten of a number's first digit is no more than the number. -/
theorem pow_length_le (pos : 0 < n) : 10 ^ ((natText n).length - 1) ≤ n := by
  refine Nat.not_lt.mp fun less => ?_
  have leads : 0 < (natText n).length := List.length_pos_iff.mpr (natText_ne_nil _)
  rcases Nat.eq_zero_or_pos ((natText n).length - 1) with one | more
  · rw [one] at less
    omega
  · have short : (natText n).length ≤ (natText n).length - 1 := (Nat.length_toDigits_le_iff (by decide) more).mpr less
    omega

/-- Eighteen digits are enough for fifty-three bits. -/
theorem exists_onGrid?_place (pos : 0 < m) (small : m < 2 ^ 53) (scale : f.scale ≤ 1074) :
    ∃ n, (ofFinite f m s).onGrid? ((ofFinite f m s).place - (18 : Nat)) = some n := by
  have unit : 0 < 2 ^ s := Nat.two_pow_pos s
  have cell : 0 < 4 * 2 ^ f.scale := Nat.mul_pos (by decide) (Nat.two_pow_pos _)
  -- The power of ten by which places are counted is too great to be evaluated.
  obtain ⟨places, four⟩ : ∃ places : Nat, places = 400 := ⟨400, rfl⟩
  have wide : 4 * 2 ^ f.scale ≤ 4 * m * 2 ^ s * 10 ^ places :=
    calc 4 * 2 ^ f.scale ≤ 4 * 10 ^ places := Nat.mul_le_mul_left 4 (two_pow_le_ten_pow (by omega))
      _ ≤ 4 * m * 2 ^ s * 10 ^ places := Nat.mul_le_mul_right _ (by nlinarith)
  have first := pow_length_le (Nat.div_pos wide cell)
  refine exists_onGrid?_ofFinite pos ?_
  rw [place, ← four]
  simp only [ofFinite, Nat.pow_eq]
  generalize length : (natText (4 * m * 2 ^ s * 10 ^ places / (4 * 2 ^ f.scale))).length = len at *
  have leads : 0 < len := length ▸ List.length_pos_iff.mpr (natText_ne_nil _)
  generalize grid : (len : Int) - 400 - (18 : Nat) = e
  have powers : 10 ^ e.toNat * (10 ^ places * 10 ^ 18) = 10 * 10 ^ (len - 1) * 10 ^ (-e).toNat := by
    rw [← Nat.pow_add, ← Nat.pow_add, ← Nat.pow_succ', ← Nat.pow_add]
    exact congrArg (10 ^ ·) (by omega)
  have leading := Nat.mul_le_of_le_div _ _ _ first
  have power : 0 < 10 ^ places * 10 ^ 18 := Nat.mul_pos (Nat.pow_pos (by decide)) (by decide)
  refine Nat.le_of_mul_le_mul_right ?_ power
  calc 4 * 2 ^ f.scale * 10 ^ e.toNat * (10 ^ places * 10 ^ 18)
      = 10 * (10 ^ (len - 1) * (4 * 2 ^ f.scale)) * 10 ^ (-e).toNat := by
        rw [Nat.mul_assoc, powers]
        ring
    _ ≤ 10 * (4 * m * 2 ^ s * 10 ^ places) * 10 ^ (-e).toNat :=
        Nat.mul_le_mul_right _ (Nat.mul_le_mul_left 10 leading)
    _ = 40 * m * (2 ^ s * 10 ^ places * 10 ^ (-e).toNat) := by ring
    _ ≤ 10 ^ 18 * (2 ^ s * 10 ^ places * 10 ^ (-e).toNat) := Nat.mul_le_mul_right _ (by omega)
    _ = 2 ^ s * 10 ^ (-e).toNat * (10 ^ places * 10 ^ 18) := by ring

/-- What is written of a number lies in its interval. -/
theorem contains_digits (pos : 0 < m) (small : m < 2 ^ 53) (scale : f.scale ≤ 1074) :
    (ofFinite f m s).contains ((digits f m s).1 * 10 ^ (digits f m s).2.toNat) (10 ^ (-(digits f m s).2).toNat)
      = true := by
  obtain ⟨n, fine⟩ := exists_onGrid?_place (s := s) pos small scale
  exact contains_of_onGrid? (onGrid?_search (by decide) (by decide) fine)

end Shortest

namespace FloatLiteral

variable {f : FloatFormat} {m s digits : Nat} {e : Int} {whole fraction : List Char} (negative : Bool)

/-! ### Reading -/

theorem unsignedDecimal?_whole (nonempty : whole ≠ []) (inWhole : ∀ c ∈ whole, isDigit c = true) :
    unsignedDecimal? negative whole = some (decimal negative (digitsValue whole) 0) := by
  have all : whole.takeWhile isDigit = whole := List.takeWhile_eq_self_iff.mpr inWhole
  have nothing : whole.dropWhile isDigit = [] := List.dropWhile_eq_nil_iff.mpr inWhole
  simp only [unsignedDecimal?, all, nothing, List.isEmpty_eq_false_iff.mpr nonempty, Bool.false_and, List.append_nil]
  rfl

theorem unsignedDecimal?_point (nonempty : whole ≠ []) (inWhole : ∀ c ∈ whole, isDigit c = true)
    (inFraction : ∀ c ∈ fraction, isDigit c = true) :
    unsignedDecimal? negative (whole ++ '.' :: fraction)
      = some (decimal negative (digitsValue (whole ++ fraction)) (-fraction.length)) := by
  have before : (whole ++ '.' :: fraction).takeWhile isDigit = whole := by
    rw [List.takeWhile_append_of_pos inWhole, List.takeWhile_cons_of_neg (by decide), List.append_nil]
  have after : (whole ++ '.' :: fraction).dropWhile isDigit = '.' :: fraction := by
    rw [List.dropWhile_append_of_pos inWhole, List.dropWhile_cons_of_neg (by decide)]
  have all : fraction.takeWhile isDigit = fraction := List.takeWhile_eq_self_iff.mpr inFraction
  have nothing : fraction.dropWhile isDigit = [] := List.dropWhile_eq_nil_iff.mpr inFraction
  simp only [unsignedDecimal?, before, after, all, nothing, List.isEmpty_eq_false_iff.mpr nonempty, Bool.false_and]
  exact congrArg (fun e => some (decimal negative (digitsValue (whole ++ fraction)) e)) (Int.zero_sub _)

/-- What is written by position is read as the digits, with their zeros if they are all before the point. -/
theorem unsignedDecimal?_positional :
    unsignedDecimal? negative (Shortest.positional digits e)
      = some (decimal negative (digits * 10 ^ e.toNat) (min e 0)) := by
  unfold Shortest.positional
  split
  · rename_i integral
    have all : ∀ c ∈ natText digits ++ List.replicate e.toNat '0', isDigit c = true :=
      fun c there => (List.mem_append.mp there).elim isDigit_of_mem_natText isDigit_of_mem_zeros
    rw [unsignedDecimal?_whole negative (List.append_ne_nil_of_left_ne_nil (natText_ne_nil digits) _) all,
      digitsValue_natText_zeros, min_eq_right integral]
  · rename_i fractional
    have unshifted : digits * 10 ^ e.toNat = digits := by
      rw [Int.toNat_of_nonpos (by omega), Nat.pow_zero, Nat.mul_one]
    rw [unshifted, min_eq_left (by omega)]
    dsimp only
    split
    · rename_i inside
      have nonempty : (natText digits).take ((natText digits).length - (-e).toNat) ≠ [] := by
        rw [Ne, ← List.length_eq_zero_iff, List.length_take]
        omega
      rw [unsignedDecimal?_point negative nonempty (fun c there => isDigit_of_mem_natText (List.mem_of_mem_take there))
        (fun c there => isDigit_of_mem_natText (List.mem_of_mem_drop there)), List.take_append_drop,
        digitsValue_natText, List.length_drop]
      congr 2
      omega
    · rename_i outside
      have zero : ∀ c ∈ List.replicate 1 '0', isDigit c = true := fun c => isDigit_of_mem_zeros
      have fraction : ∀ c ∈ padded (-e).toNat digits, isDigit c = true := fun c => isDigit_of_mem_padded
      have same : digitsValue (['0'] ++ padded (-e).toNat digits) = digits := digitsValue_padded
      refine (unsignedDecimal?_point negative (List.cons_ne_nil '0' []) zero fraction).trans ?_
      rw [same, padded, List.length_append, List.length_replicate]
      congr 2
      omega

/-- No decimal begins with a sign, so that one may be written before it. -/
theorem takeSign_sign {cs : List Char} {literal : FloatLiteral}
    (decimal : unsignedDecimal? negative cs = some literal) :
    takeSign (Binary.text.sign negative cs) = (negative, cs) := by
  cases negative with
  | true => rfl
  | false =>
    rw [Binary.text.sign, if_neg (by decide)]
    unfold takeSign
    split
    · cases decimal
    · cases decimal
    · rfl

theorem read?_sign {cs : List Char} {literal : FloatLiteral}
    (decimal : unsignedDecimal? negative cs = some literal) : read? (Binary.text.sign negative cs) = some literal := by
  rw [read?, takeSign_sign negative decimal]
  dsimp only
  rw [decimal, Option.orElse_some]

theorem low_pos (pos : 0 < m) : 0 < (Shortest.Interval.ofFinite f m s).low := by
  refine Nat.mul_pos ?_ (Nat.two_pow_pos s)
  split <;> omega

/-- A fraction of an interval has no more places than are reached. -/
theorem reach_le (pos : 0 < m) (scale : f.scale ≤ 1074)
    (contains : (Shortest.Interval.ofFinite f m s).contains digits (10 ^ (-e).toNat) = true) :
    -reach ≤ e + (digits.log2 + 1) := by
  refine Int.not_lt.mp fun far => ?_
  rw [reach] at far
  have least : 10 ^ (-e).toNat ≤ digits * (4 * 2 ^ f.scale) :=
    Nat.le_trans (Nat.le_mul_of_pos_left _ (low_pos pos)) (Shortest.Interval.low_le_of_contains contains)
  refine absurd least (Nat.not_le.mpr ?_)
  calc digits * (4 * 2 ^ f.scale) < 2 ^ (digits.log2 + 1) * (4 * 2 ^ f.scale) :=
        Nat.mul_lt_mul_of_pos_right Nat.lt_log2_self (Nat.mul_pos (by decide) (Nat.two_pow_pos _))
    _ = 2 ^ (digits.log2 + 1 + (2 + f.scale)) := by rw [Nat.pow_add _ (_ + 1), Nat.pow_add _ 2]
    _ ≤ 10 ^ (-e).toNat := Shortest.two_pow_le_ten_pow (by omega)

/-- A literal is read as the number whose interval contains it. -/
theorem value_of_contains (precise : 2 ≤ f.precision) (scale : f.scale ≤ 1074) (pos : 0 < m)
    (canonical : (Binary.finite (f := f) negative m s).Canonical) (integral : e ≤ 0)
    (contains : (Shortest.Interval.ofFinite f m s).contains digits (10 ^ (-e).toNat) = true) :
    value f (decimal negative digits e) = .finite negative m s := by
  have down : 0 < 10 ^ (-e).toNat := Nat.pow_pos (by decide)
  have nonzero : digits ≠ 0 := by
    rintro rfl
    have least := Shortest.Interval.low_le_of_contains contains
    rw [Nat.zero_mul] at least
    exact absurd least (Nat.not_le.mpr (Nat.mul_pos (low_pos pos) down))
  have near := reach_le pos scale contains
  rw [value, if_neg nonzero, if_neg (by rw [reach]; omega), if_neg (Int.not_lt.mpr near)]
  split
  · obtain rfl : e = 0 := by omega
    exact Binary.ofRatio_of_contains precise (by decide) negative canonical (by simpa using contains)
  · exact Binary.ofRatio_of_contains precise down negative canonical contains

end FloatLiteral

/-- A number is the one that its text is read as. -/
theorem Double.read?_text {x : Double} (canonical : x.Canonical) : Double.read? x.text = some x := by
  rcases x with _ | negative | ⟨negative, m, s⟩
  case nan => rfl
  case infinite => cases negative <;> rfl
  case finite =>
    rw [Binary.text]
    split
    · rename_i zero
      subst zero
      obtain rfl : s = 0 := canonical.2.2.resolve_right (by decide)
      cases negative <;> rfl
    · rename_i nonzero
      have pos : 0 < m := Nat.pos_of_ne_zero nonzero
      have contains := Shortest.contains_digits (f := .double) (s := s) pos canonical.1 (Nat.le_refl _)
      generalize Shortest.digits .double m s = found at contains
      obtain ⟨n, e⟩ := found
      dsimp only at contains ⊢
      have places : (-e).toNat = (-min e 0).toNat := by omega
      rw [places] at contains
      have value :=
        FloatLiteral.value_of_contains negative (by decide) (Nat.le_refl _) pos canonical (by omega) contains
      rw [Double.read?, FloatLiteral.read?_sign negative (FloatLiteral.unsignedDecimal?_positional negative),
        Option.map_some, value]

end StoreAccess
