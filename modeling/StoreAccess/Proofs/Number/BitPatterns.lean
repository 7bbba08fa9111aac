import Mathlib.Tactic.Ring
import StoreAccess.Proofs.Number.Rounding

/-! Infinity and what is no number, by their bit patterns. A pattern consists of a sign, an exponent field and a
    fraction. Where the exponent field is all ones, the pattern is that of infinity if the fraction is zero, and of no
    number if it is not. -/

namespace StoreAccess

variable {f : FloatFormat} {negative : Bool} {m s : Nat}

namespace FloatFormat

/-- The width of the exponent field. -/
def exponentWidth (f : FloatFormat) : Nat := (f.maxShift + 2).log2 + 1

def exponentField (f : FloatFormat) (n : Nat) : Nat := n / 2 ^ (f.precision - 1) % 2 ^ f.exponentWidth

def fraction (f : FloatFormat) (n : Nat) : Nat := n % 2 ^ (f.precision - 1)

/-- The bit pattern is that of an infinity. -/
def IsInfinite (f : FloatFormat) (n : Nat) : Prop := f.exponentField n = 2 ^ f.exponentWidth - 1 ∧ f.fraction n = 0

/-- The bit pattern is that of no number. -/
def IsNan (f : FloatFormat) (n : Nat) : Prop := f.exponentField n = 2 ^ f.exponentWidth - 1 ∧ f.fraction n ≠ 0

/-- Of the values of the exponent field only the greatest is that of no finite number. -/
structure Interchange (f : FloatFormat) : Prop where
  precise : 2 ≤ f.precision
  full : f.maxShift + 2 = 2 ^ f.exponentWidth - 1

theorem interchange_double : Interchange .double := ⟨by decide, by decide⟩

theorem interchange_single : Interchange .single := ⟨by decide, by decide⟩

end FloatFormat

open FloatFormat

namespace Binary

theorem sign_eq (precise : 0 < f.precision) (negative : Bool) :
    bits.sign (f := f) negative = negative.toNat * 2 ^ f.exponentWidth * 2 ^ (f.precision - 1) := by
  cases negative with
  | false => simp [bits.sign]
  | true =>
    have places : width f - 1 = f.precision - 1 + f.exponentWidth := by
      unfold width exponentWidth
      omega
    rw [Bool.toNat_true, Nat.one_mul, Nat.mul_comm, ← Nat.pow_add, ← places]
    rfl

/-- The fields of a pattern are what it was put together from. -/
theorem fields_add {field fraction : Nat} (precise : 0 < f.precision) (negative : Bool)
    (inField : field < 2 ^ f.exponentWidth) (inFraction : fraction < 2 ^ (f.precision - 1)) :
    f.exponentField (bits.sign (f := f) negative + field * 2 ^ (f.precision - 1) + fraction) = field ∧
      f.fraction (bits.sign (f := f) negative + field * 2 ^ (f.precision - 1) + fraction) = fraction := by
  have whole : bits.sign (f := f) negative + field * 2 ^ (f.precision - 1) + fraction =
      (negative.toNat * 2 ^ f.exponentWidth + field) * 2 ^ (f.precision - 1) + fraction := by
    rw [sign_eq precise, Nat.add_mul]
  rw [whole]
  constructor
  · rw [exponentField, Nat.mul_comm, Nat.mul_add_div (Nat.two_pow_pos _), Nat.div_eq_of_lt inFraction, Nat.add_zero,
      Nat.mul_add_mod_of_lt inField]
  · rw [FloatFormat.fraction, Nat.mul_add_mod_of_lt inFraction]

theorem isInfinite_bits_infinite (format : Interchange f) (negative : Bool) :
    f.IsInfinite (infinite (f := f) negative).bits := by
  have ones : f.maxShift + 2 < 2 ^ f.exponentWidth := by have := format.full; omega
  obtain ⟨field, fraction⟩ := fields_add (by have := format.precise; omega) negative ones (Nat.two_pow_pos _)
  exact ⟨field.trans format.full, fraction⟩

theorem isNan_bits_nan (format : Interchange f) : f.IsNan (nan (f := f)).bits := by
  have ones : f.maxShift + 2 < 2 ^ f.exponentWidth := by have := format.full; omega
  have quiet : 2 ^ (f.precision - 2) < 2 ^ (f.precision - 1) :=
    Nat.pow_lt_pow_right (by decide) (by have := format.precise; omega)
  obtain ⟨field, fraction⟩ := fields_add (by have := format.precise; omega) false ones quiet
  have written : (nan (f := f)).bits =
      bits.sign (f := f) false + (f.maxShift + 2) * 2 ^ (f.precision - 1) + 2 ^ (f.precision - 2) := by
    rw [bits.sign, if_neg (by decide), Nat.zero_add]
    rfl
  rw [written]
  exact ⟨field.trans format.full, fraction.trans_ne (Nat.two_pow_pos _).ne'⟩

/-- The exponent field of a finite number is not all ones. -/
theorem exponentField_bits_finite (format : Interchange f) (canonical : Canonical (finite (f := f) negative m s)) :
    f.exponentField (finite (f := f) negative m s).bits ≠ 2 ^ f.exponentWidth - 1 := by
  obtain ⟨small, reach, large⟩ := canonical
  have precise := format.precise
  have full := format.full
  have whole := f.two_pow_precision (by omega)
  change f.exponentField (bits.sign (f := f) negative + s * 2 ^ (f.precision - 1) + m) ≠ _
  rcases Nat.lt_or_ge m (2 ^ (f.precision - 1)) with less | more
  · rw [(fields_add (by omega) negative (by omega) less).1]
    omega
  · obtain ⟨fraction, rfl⟩ := Nat.exists_eq_add_of_le' more
    have carried : bits.sign (f := f) negative + s * 2 ^ (f.precision - 1) + (fraction + 2 ^ (f.precision - 1)) =
        bits.sign (f := f) negative + (s + 1) * 2 ^ (f.precision - 1) + fraction := by ring
    rw [carried, (fields_add (by omega) negative (by omega) (by omega)).1]
    omega

variable {x : Binary f}

/-- A number of the format is infinite iff its bit pattern is. -/
theorem isInfinite_bits_iff (format : Interchange f) (canonical : x.Canonical) :
    f.IsInfinite x.bits ↔ ∃ negative, x = .infinite negative := by
  constructor
  · intro pattern
    rcases x with _ | negative | ⟨negative, m, s⟩
    · exact absurd pattern.2 (isNan_bits_nan format).2
    · exact ⟨negative, rfl⟩
    · exact absurd pattern.1 (exponentField_bits_finite format canonical)
  · rintro ⟨negative, rfl⟩
    exact isInfinite_bits_infinite format negative

/-- A number of the format is none iff its bit pattern is that of none. -/
theorem isNan_bits_iff (format : Interchange f) (canonical : x.Canonical) : f.IsNan x.bits ↔ x = .nan := by
  constructor
  · intro pattern
    rcases x with _ | negative | ⟨negative, m, s⟩
    · rfl
    · exact absurd (isInfinite_bits_infinite format negative).2 pattern.2
    · exact absurd pattern.1 (exponentField_bits_finite format canonical)
  · rintro rfl
    exact isNan_bits_nan format

end Binary

end StoreAccess
