import Mathlib.Data.Rat.Cast.Order
import Mathlib.Tactic.GCongr
import Mathlib.Tactic.LinearCombination
import Mathlib.Tactic.Positivity
import StoreAccess.Proofs.Number.Rounding

/-! Correct rounding. A rational number is rounded to the number of the format that is nearest to it, and of two equally
    near to the one with an even mantissa; from half a unit beyond the greatest number of the format on it is rounded to
    infinity. There is exactly one number that a rational is rounded to, and rounding a quotient finds it. -/

namespace StoreAccess

variable {f : FloatFormat} {m s m' s' num den : Nat} {y u : ℚ}

namespace FloatFormat

/-- The mantissa and the shift of a number, if there were no greatest shift. -/
structure Normal (f : FloatFormat) (m s : Nat) : Prop where
  small : m < 2 ^ f.precision
  large : s = 0 ∨ 2 ^ (f.precision - 1) ≤ m

/-- A number is a whole number of steps of any shift, or less than all that are of this shift and no smaller one. -/
theorem Normal.onSteps_or_less (precise : 0 < f.precision) (normal' : Normal f m' s') (s : Nat) :
    (∃ j, m' * 2 ^ s' = j * 2 ^ s) ∨ 0 < s ∧ m' * 2 ^ s' < 2 ^ (f.precision - 1) * 2 ^ s := by
  rcases Nat.lt_or_ge s' s with less | more
  · obtain ⟨d, rfl⟩ := Nat.exists_eq_add_of_le less
    refine Or.inr ⟨by omega, ?_⟩
    calc m' * 2 ^ s' < 2 ^ f.precision * 2 ^ s' := Nat.mul_lt_mul_of_pos_right normal'.small (Nat.two_pow_pos _)
      _ = 2 ^ (f.precision - 1) * 2 ^ (s' + 1) := by rw [← two_pow_precision precise, Nat.pow_succ]; ring
      _ ≤ 2 ^ (f.precision - 1) * 2 ^ (s'.succ + d) :=
          Nat.mul_le_mul_left _ (Nat.pow_le_pow_right (by decide) (Nat.le_add_right _ _))
  · obtain ⟨d, rfl⟩ := Nat.exists_eq_add_of_le more
    exact Or.inl ⟨m' * 2 ^ d, by rw [Nat.pow_add]; ring⟩

/-- A number has one mantissa and one shift. -/
theorem Normal.unique (precise : 0 < f.precision) (normal : Normal f m s) (normal' : Normal f m' s')
    (same : m * 2 ^ s = m' * 2 ^ s') : m = m' ∧ s = s' := by
  have least {m s m' s' : Nat} (normal : Normal f m s) (normal' : Normal f m' s') (same : m * 2 ^ s = m' * 2 ^ s') :
      s ≤ s' := by
    by_contra less
    have below : m' * 2 ^ s' < 2 ^ f.precision * 2 ^ s' :=
      Nat.mul_lt_mul_of_pos_right normal'.small (Nat.two_pow_pos _)
    have above : 2 ^ (f.precision - 1) * 2 ^ (s' + 1) ≤ m * 2 ^ s :=
      Nat.mul_le_mul (normal.large.resolve_left (by omega)) (Nat.pow_le_pow_right (by decide) (by omega))
    rw [Nat.pow_succ, ← two_pow_precision precise] at *
    nlinarith
  obtain rfl : s = s' := Nat.le_antisymm (least normal normal' same) (least normal' normal same.symm)
  exact ⟨Nat.eq_of_mul_eq_mul_right (Nat.two_pow_pos s) same, rfl⟩

/-- Of the numbers of the format with certain shifts none is nearer to `y` than `m * 2 ^ s`, all in units of the least
    positive one. If another is as near, the mantissa is even. -/
structure Nearest (f : FloatFormat) (shifts : Nat → Prop) (y : ℚ) (m s : Nat) : Prop where
  normal : Normal f m s
  least : ∀ m' s', shifts s' → Normal f m' s' → |y - m * 2 ^ s| ≤ |y - m' * 2 ^ s'|
  even : ∀ m' s', shifts s' → Normal f m' s' → |y - m' * 2 ^ s'| = |y - m * 2 ^ s| →
    m' * 2 ^ s' = m * 2 ^ s ∨ m % 2 = 0

theorem Nearest.mono {shifts shifts' : Nat → Prop} (nearest : Nearest f shifts y m s)
    (fewer : ∀ s, shifts' s → shifts s) : Nearest f shifts' y m s :=
  ⟨nearest.normal, fun m' s' inside => nearest.least m' s' (fewer s' inside),
    fun m' s' inside => nearest.even m' s' (fewer s' inside)⟩

/-- The magnitude of a finite number. -/
def magnitude (f : FloatFormat) (m s : Nat) : ℚ := m * 2 ^ s / 2 ^ f.scale

/-- The magnitude of the greatest number. -/
def greatest (f : FloatFormat) : ℚ := f.magnitude f.maxMantissa f.maxShift

/-- Half a unit beyond the greatest number. -/
def limit (f : FloatFormat) : ℚ := (2 ^ f.precision - 1 / 2) * 2 ^ f.maxShift / 2 ^ f.scale

theorem magnitude_mul (f : FloatFormat) (m s : Nat) : f.magnitude m s * 2 ^ f.scale = m * 2 ^ s :=
  div_mul_cancel₀ _ (by positivity)

theorem lt_limit_iff {q : ℚ} : q < f.limit ↔ q * 2 ^ f.scale < (2 ^ f.precision - 1 / 2) * 2 ^ f.maxShift :=
  lt_div_iff₀ (by positivity)

theorem cast_maxMantissa (f : FloatFormat) : (f.maxMantissa : ℚ) = 2 ^ f.precision - 1 := by
  rw [maxMantissa, Nat.pow_eq, Nat.cast_sub Nat.one_le_two_pow]
  push_cast
  rfl

theorem greatest_lt_limit (f : FloatFormat) : f.greatest < f.limit := by
  have unit_pos : (0 : ℚ) < 2 ^ f.maxShift := by positivity
  rw [lt_limit_iff, greatest, magnitude_mul, cast_maxMantissa]
  exact mul_lt_mul_of_pos_right (by linarith) unit_pos

theorem magnitude_le_greatest (small : m < 2 ^ f.precision) (reach : s ≤ f.maxShift) :
    f.magnitude m s ≤ f.greatest := by
  have value : m * 2 ^ s ≤ f.maxMantissa * 2 ^ f.maxShift :=
    Nat.mul_le_mul (Nat.le_sub_one_of_lt small) (Nat.pow_le_pow_right (by decide) reach)
  exact div_le_div_of_nonneg_right (by exact_mod_cast value) (by positivity)

/-- The greatest number of a shift. -/
theorem normal_greatest (precise : 0 < f.precision) (s : Nat) : Normal f f.maxMantissa s := by
  have whole := f.two_pow_precision precise
  have one : 1 ≤ 2 ^ (f.precision - 1) := Nat.one_le_two_pow
  rw [maxMantissa, Nat.pow_eq]
  exact ⟨by omega, Or.inr (by omega)⟩

/-- The number after it. -/
theorem normal_next (precise : 2 ≤ f.precision) (s : Nat) : Normal f (2 ^ (f.precision - 1)) (s + 1) :=
  ⟨Nat.pow_lt_pow_right (by decide) (by omega), Or.inr (Nat.le_refl _)⟩

theorem next_value (precise : 0 < f.precision) (s : Nat) :
    2 ^ (f.precision - 1) * 2 ^ (s + 1) = 2 ^ f.precision * 2 ^ s := by
  rw [← f.two_pow_precision precise, Nat.pow_succ]
  ring

theorem cast_next_value (precise : 0 < f.precision) (s : Nat) :
    ((2 ^ (f.precision - 1) : Nat) : ℚ) * 2 ^ (s + 1) = 2 ^ f.precision * 2 ^ s := by
  exact_mod_cast f.next_value precise s

end FloatFormat

open FloatFormat (Normal Nearest)

namespace Binary

/-! ### Quotients -/

/-- `k` whole steps of `u` are nearest to `y`, and an even number of them if others are as near. -/
structure OnGrid (y u : ℚ) (k : Nat) : Prop where
  low : k * u ≤ y + u / 2
  high : y ≤ k * u + u / 2
  odd : k % 2 = 1 → k * u ≠ y + u / 2 ∧ y ≠ k * u + u / 2

theorem OnGrid.dist_le {k : Nat} (grid : OnGrid y u k) : |y - k * u| ≤ u / 2 :=
  abs_le.mpr ⟨by linarith [grid.low], by linarith [grid.high]⟩

theorem OnGrid.le_dist {k j : Nat} (grid : OnGrid y u k) (pos : 0 < u) (other : j ≠ k) : u / 2 ≤ |y - j * u| := by
  rcases Nat.lt_or_gt_of_ne other with less | more
  · have step : ((j : ℚ) + 1) * u ≤ k * u := by
      have : (j : ℚ) + 1 ≤ k := by exact_mod_cast less
      gcongr
    exact le_abs.mpr (Or.inl (by linarith [grid.low]))
  · have step : ((k : ℚ) + 1) * u ≤ j * u := by
      have : (k : ℚ) + 1 ≤ j := by exact_mod_cast more
      gcongr
    exact le_abs.mpr (Or.inr (by linarith [grid.high]))

theorem OnGrid.even_of_dist_eq {k : Nat} (grid : OnGrid y u k) (half : |y - k * u| = u / 2) : k % 2 = 0 := by
  by_contra odd
  obtain ⟨low, high⟩ := grid.odd (by omega)
  rcases abs_eq_abs.mp (half.trans (abs_of_nonneg (by linarith [abs_nonneg (y - k * u)])).symm) with above | below
  · exact high (by linarith)
  · exact low (by linarith)

/-- What is less than a number of steps is rounded to no more of them. -/
theorem OnGrid.le_of_lt {k b : Nat} (grid : OnGrid y u k) (pos : 0 < u) (below : y < b * u) : k ≤ b := by
  have less : (k : ℚ) * u < (b + 1) * u := by linarith [grid.low]
  have cast := lt_of_mul_lt_mul_right less pos.le
  exact Nat.lt_succ_iff.mp (by exact_mod_cast cast)

/-- What is no less than a number of steps is rounded to no fewer of them. -/
theorem OnGrid.ge_of_le {k b : Nat} (grid : OnGrid y u k) (pos : 0 < u) (above : b * u ≤ y) : b ≤ k := by
  have less : (b : ℚ) * u < (k + 1) * u := by linarith [grid.high]
  have cast := lt_of_mul_lt_mul_right less pos.le
  exact Nat.lt_succ_iff.mp (by exact_mod_cast cast)

theorem roundHalfEven_spec (pos : 0 < den) :
    2 * roundHalfEven num den * den ≤ 2 * num + den ∧ 2 * num ≤ (2 * roundHalfEven num den + 1) * den ∧
      (roundHalfEven num den % 2 = 1 →
        2 * roundHalfEven num den * den ≠ 2 * num + den ∧ 2 * num ≠ (2 * roundHalfEven num den + 1) * den) := by
  have split : den * (num / den) + num % den = num := Nat.div_add_mod num den
  have rest : num % den < den := Nat.mod_lt num pos
  unfold roundHalfEven
  generalize num / den = q at *
  generalize num % den = r at *
  subst split
  dsimp only
  split
  · rename_i lower
    have high : 2 * (den * q + r) ≤ (2 * q + 1) * den := by rcases lower with less | ⟨half, -⟩ <;> nlinarith
    refine ⟨by nlinarith, high, fun odd => ⟨fun same => ?_, fun same => ?_⟩⟩
    · nlinarith
    · exact (lower.resolve_right (by omega)).ne (by nlinarith)
  · rename_i upper
    rw [not_or, Nat.not_lt] at upper
    refine ⟨by nlinarith, by nlinarith, fun odd => ⟨fun same => ?_, fun same => ?_⟩⟩
    · exact upper.2 ⟨by nlinarith, by omega⟩
    · nlinarith

/-- A quotient is rounded to a whole number of steps. -/
theorem onGrid_roundHalfEven {scaled : Nat} (pos : 0 < den) (s : Nat) :
    OnGrid (scaled / den) (2 ^ s) (roundHalfEven scaled (den * 2 ^ s)) := by
  obtain ⟨low, high, odd⟩ := @roundHalfEven_spec scaled _ (Nat.mul_pos pos (Nat.two_pow_pos s))
  generalize roundHalfEven scaled (den * 2 ^ s) = k at *
  have den_pos : (0 : ℚ) < den := by exact_mod_cast pos
  have quotient : (scaled : ℚ) / den * den = scaled := div_mul_cancel₀ _ den_pos.ne'
  generalize (scaled : ℚ) / den = y at *
  refine ⟨?_, ?_, fun oddK => ?_⟩
  · have cast : (2 * k * (den * 2 ^ s) : ℚ) ≤ 2 * scaled + den * 2 ^ s := by exact_mod_cast low
    refine le_of_mul_le_mul_right ?_ den_pos
    linarith
  · have cast : (2 * scaled : ℚ) ≤ (2 * k + 1) * (den * 2 ^ s) := by exact_mod_cast high
    refine le_of_mul_le_mul_right ?_ den_pos
    linarith
  · obtain ⟨notLow, notHigh⟩ := odd oddK
    refine ⟨fun same => notLow ?_, fun same => notHigh ?_⟩
    · have cast : (2 * k * (den * 2 ^ s) : ℚ) = 2 * scaled + den * 2 ^ s := by
        rw [← quotient]
        linear_combination 2 * den * same
      exact_mod_cast cast
    · have cast : (2 * scaled : ℚ) = (2 * k + 1) * (den * 2 ^ s) := by
        rw [← quotient]
        linear_combination 2 * den * same
      exact_mod_cast cast

theorem OnGrid.dist_le_dist {k : Nat} (grid : OnGrid y u k) (pos : 0 < u) (j : Nat) : |y - k * u| ≤ |y - j * u| := by
  by_cases same : j = k
  · rw [same]
  · exact grid.dist_le.trans (grid.le_dist pos same)

/-- What is nearest of the steps of a shift is nearest of all numbers, if the numbers of smaller shifts are less. -/
theorem OnGrid.spec {k : Nat} (grid : OnGrid y (2 ^ s) k) (precise : 0 < f.precision)
    (bottom : s = 0 ∨ (2 : ℚ) ^ (f.precision - 1) * 2 ^ s ≤ y) (normal' : Normal f m' s') :
    |y - k * 2 ^ s| ≤ |y - m' * 2 ^ s'| ∧
      (|y - m' * 2 ^ s'| = |y - k * 2 ^ s| → m' * 2 ^ s' = k * 2 ^ s ∨ k % 2 = 0) := by
  have pos : (0 : ℚ) < 2 ^ s := by positivity
  rcases normal'.onSteps_or_less precise s with ⟨j, steps⟩ | ⟨shifted, less⟩
  · have cast : (m' * 2 ^ s' : ℚ) = j * 2 ^ s := by exact_mod_cast steps
    rw [cast]
    refine ⟨grid.dist_le_dist pos j, fun tie => ?_⟩
    by_cases same : j = k
    · exact Or.inl (same ▸ steps)
    · exact Or.inr (grid.even_of_dist_eq (le_antisymm grid.dist_le ((grid.le_dist pos same).trans tie.le)))
  · have cast : (m' * 2 ^ s' : ℚ) < 2 ^ (f.precision - 1) * 2 ^ s := by exact_mod_cast less
    have least := bottom.resolve_left (by omega)
    have near := grid.dist_le_dist pos (2 ^ (f.precision - 1))
    rw [Nat.cast_pow, Nat.cast_ofNat, abs_of_nonneg (by linarith : 0 ≤ y - 2 ^ (f.precision - 1) * 2 ^ s)] at near
    have farther : |y - k * 2 ^ s| < |y - m' * 2 ^ s'| := lt_abs.mpr (Or.inl (by linarith))
    exact ⟨farther.le, fun tie => absurd tie farther.ne'⟩

/-- The shift that a quotient is rounded at: the quotient has all bits of a mantissa before the point, and not more, or
    it has fewer and there is no shift. -/
theorem shift_spec {scaled : Nat} (precise : 0 < f.precision) (pos : 0 < den) :
    let shift := (scaled / den).log2 + 1 - f.precision
    scaled < 2 ^ f.precision * 2 ^ shift * den ∧
      (shift = 0 ∨ 2 ^ (f.precision - 1) * 2 ^ shift * den ≤ scaled) := by
  intro shift
  rw [← Nat.div_lt_iff_lt_mul pos, ← Nat.le_div_iff_mul_le pos, ← Nat.pow_add, ← Nat.pow_add]
  refine ⟨Nat.lt_of_lt_of_le Nat.lt_log2_self (Nat.pow_le_pow_right (by decide) (by omega)), ?_⟩
  refine or_iff_not_imp_left.mpr fun shifted => ?_
  have nonzero : scaled / den ≠ 0 := by
    refine fun zero => shifted ?_
    show (scaled / den).log2 + 1 - f.precision = 0
    rw [zero, Nat.log2_zero]
    omega
  rw [show f.precision - 1 + shift = (scaled / den).log2 by omega]
  exact Nat.log2_self_le nonzero

/-- A quotient is rounded to the nearest number, of two equally near to the even one. -/
theorem nearest_spec (precise : 2 ≤ f.precision) (pos : 0 < den) (num : Nat) :
    Nearest f (fun _ => True) ((num * 2 ^ f.scale : Nat) / den) (nearest f num den).1 (nearest f num den).2 := by
  simp only [nearest, Nat.pow_eq]
  generalize num * 2 ^ f.scale = scaled
  obtain ⟨top, bottom⟩ := @shift_spec f den scaled (by omega) pos
  generalize (scaled / den).log2 + 1 - f.precision = s at *
  have grid := @onGrid_roundHalfEven den scaled pos s
  generalize roundHalfEven scaled (den * 2 ^ s) = k at *
  have den_pos : (0 : ℚ) < den := by exact_mod_cast pos
  have unit_pos : (0 : ℚ) < 2 ^ s := by positivity
  have below : (scaled : ℚ) / den < (2 ^ f.precision : Nat) * 2 ^ s := (div_lt_iff₀ den_pos).mpr (by exact_mod_cast top)
  have above : s = 0 ∨ ((2 ^ (f.precision - 1) : Nat) : ℚ) * 2 ^ s ≤ scaled / den :=
    bottom.imp_right fun least => (le_div_iff₀ den_pos).mpr (by exact_mod_cast least)
  generalize (scaled : ℚ) / den = y at *
  have spec := fun m' s' (normal' : Normal f m' s') => grid.spec (by omega) (by exact_mod_cast above) normal'
  have most : k ≤ 2 ^ f.precision := grid.le_of_lt unit_pos below
  have large : s = 0 ∨ 2 ^ (f.precision - 1) ≤ k := above.imp_right (grid.ge_of_le unit_pos)
  by_cases carry : k = 2 ^ f.precision
  · -- The mantissa is one bit too long, and a power of two.
    have half : k / 2 = 2 ^ (f.precision - 1) := by
      rw [carry, ← f.two_pow_precision (by omega), Nat.mul_div_cancel_left _ (by decide)]
    have value : k / 2 * 2 ^ (s + 1) = k * 2 ^ s := by rw [half, carry, f.next_value (by omega)]
    have cast : ((k / 2 : Nat) : ℚ) * 2 ^ (s + 1) = k * 2 ^ s := by exact_mod_cast value
    have even : k / 2 % 2 = 0 := by
      rw [half, show f.precision - 1 = f.precision - 2 + 1 by omega, Nat.pow_succ, Nat.mul_mod_left]
    rw [if_pos carry]
    exact ⟨half ▸ f.normal_next precise s, fun m' s' _ normal' => cast ▸ (spec m' s' normal').1,
      fun m' s' _ _ _ => Or.inr even⟩
  · rw [if_neg carry]
    exact ⟨⟨Nat.lt_of_le_of_ne most carry, large⟩, fun m' s' _ normal' => (spec m' s' normal').1,
      fun m' s' _ normal' => (spec m' s' normal').2⟩

/-! ### One nearest number -/

/-- Of two numbers that are both nearest the lesser has an odd successor between them, or the greater is odd. -/
theorem not_lt_of_nearest {shifts : Nat → Prop} (precise : 2 ≤ f.precision) (nearest : Nearest f shifts y m s)
    (nearest' : Nearest f shifts y m' s') (inside : shifts s) (inside' : shifts s') : ¬m * 2 ^ s < m' * 2 ^ s' := by
  intro less
  have tie : |y - m * 2 ^ s| = |y - m' * 2 ^ s'| :=
    le_antisymm (nearest.least m' s' inside' nearest'.normal) (nearest'.least m s inside nearest.normal)
  have even := (nearest.even m' s' inside' nearest'.normal tie.symm).resolve_left less.ne'
  have even' := (nearest'.even m s inside nearest.normal tie).resolve_left less.ne
  have unit_pos : (0 : ℚ) < 2 ^ s := by positivity
  have cast : (m * 2 ^ s : ℚ) < m' * 2 ^ s' := by exact_mod_cast less
  -- The rational stands in the middle of the two.
  have middle : y - m * 2 ^ s = m' * 2 ^ s' - y := by
    rcases abs_eq_abs.mp tie with same | opposite <;> linarith
  have successor : Normal f (m + 1) s := by
    have whole := f.two_pow_precision (by omega)
    have small := nearest.normal.small
    exact ⟨by omega, nearest.normal.large.imp_right (Nat.le_succ_of_le ·)⟩
  have step : (m + 1) * 2 ^ s = m * 2 ^ s + 2 ^ s := by ring
  rcases Nat.lt_trichotomy ((m + 1) * 2 ^ s) (m' * 2 ^ s') with between | same | beyond
  · -- The successor is nearer.
    have castBetween : ((m + 1 : Nat) * 2 ^ s : ℚ) < m' * 2 ^ s' := by exact_mod_cast between
    have farther := nearest.least (m + 1) s inside successor
    rw [abs_of_nonneg (by linarith : 0 ≤ y - m * 2 ^ s)] at farther
    push_cast at farther castBetween
    rcases le_abs.mp farther with above | below <;> linarith
  · obtain ⟨rfl, -⟩ := successor.unique (by omega) nearest'.normal same
    omega
  · rcases nearest'.normal.onSteps_or_less (by omega) s with ⟨j, steps⟩ | ⟨shifted, below⟩
    · rw [steps] at less beyond
      have first := Nat.lt_of_mul_lt_mul_right less
      have last := Nat.lt_of_mul_lt_mul_right beyond
      omega
    · have above := Nat.mul_le_mul_right (2 ^ s) (nearest.normal.large.resolve_left (by omega))
      omega

/-- There is at most one nearest number. -/
theorem nearest_unique {shifts : Nat → Prop} (precise : 2 ≤ f.precision) (nearest : Nearest f shifts y m s)
    (nearest' : Nearest f shifts y m' s') (inside : shifts s) (inside' : shifts s') : m = m' ∧ s = s' :=
  nearest.normal.unique (by omega) nearest'.normal <| Nat.le_antisymm
    (Nat.not_lt.mp (not_lt_of_nearest precise nearest' nearest inside' inside))
    (Nat.not_lt.mp (not_lt_of_nearest precise nearest nearest' inside inside'))

/-! ### The end of the format -/

/-- From half a unit beyond the greatest number of a shift on, the nearest number has a greater shift. -/
theorem lt_of_shift_le {M : Nat} (precise : 2 ≤ f.precision) (nearest : Nearest f (fun _ => True) y m s)
    (within : s ≤ M) : y < (2 ^ f.precision - 1 / 2) * 2 ^ M := by
  by_contra far
  rw [not_lt] at far
  have unit_pos : (0 : ℚ) < 2 ^ M := by positivity
  have next := nearest.least _ _ trivial (f.normal_next precise M)
  rw [f.cast_next_value (by omega)] at next
  have most : m * 2 ^ s ≤ f.maxMantissa * 2 ^ M :=
    Nat.mul_le_mul (Nat.le_sub_one_of_lt nearest.normal.small) (Nat.pow_le_pow_right (by decide) within)
  have castMost : (m * 2 ^ s : ℚ) ≤ (2 ^ f.precision - 1) * 2 ^ M := by
    rw [← f.cast_maxMantissa]
    exact_mod_cast most
  rw [abs_of_nonneg (by linarith : 0 ≤ y - m * 2 ^ s)] at next
  -- Only in the middle between the two the next number is no nearer, and the greatest is odd.
  have middle : y - m * 2 ^ s = 2 ^ f.precision * 2 ^ M - y ∧ (m * 2 ^ s : ℚ) = (2 ^ f.precision - 1) * 2 ^ M := by
    rcases le_abs.mp next with above | below <;> constructor <;> linarith
  have value : m * 2 ^ s = f.maxMantissa * 2 ^ M := by
    have same := middle.2
    rw [← f.cast_maxMantissa] at same
    exact_mod_cast same
  have tie : |y - ((2 ^ (f.precision - 1) : Nat) : ℚ) * 2 ^ (M + 1)| = |y - m * 2 ^ s| := by
    rw [f.cast_next_value (by omega), middle.1, abs_sub_comm]
  obtain ⟨rfl, -⟩ := nearest.normal.unique (by omega) (f.normal_greatest (by omega) M) value
  have whole := f.two_pow_precision (by omega)
  have one : 1 ≤ 2 ^ (f.precision - 1) := Nat.one_le_two_pow
  rcases nearest.even _ _ trivial (f.normal_next precise M) tie with same | even
  · rw [f.next_value (by omega), value] at same
    have equal := Nat.eq_of_mul_eq_mul_right (Nat.two_pow_pos M) same
    rw [FloatFormat.maxMantissa, Nat.pow_eq] at equal
    omega
  · rw [FloatFormat.maxMantissa, Nat.pow_eq] at even
    omega

theorem shift_le_of_lt {M : Nat} (precise : 2 ≤ f.precision) (nearest : Nearest f (fun _ => True) y m s)
    (near : y < (2 ^ f.precision - 1 / 2) * 2 ^ M) : s ≤ M := by
  by_contra far
  have unit_pos : (0 : ℚ) < 2 ^ M := by positivity
  have greatest := nearest.least _ _ trivial (f.normal_greatest (by omega) M)
  rw [f.cast_maxMantissa] at greatest
  have least : 2 ^ (f.precision - 1) * 2 ^ (M + 1) ≤ m * 2 ^ s :=
    Nat.mul_le_mul (nearest.normal.large.resolve_left (by omega)) (Nat.pow_le_pow_right (by decide) (by omega))
  rw [f.next_value (by omega)] at least
  have castLeast : (2 ^ f.precision * 2 ^ M : ℚ) ≤ m * 2 ^ s := by exact_mod_cast least
  rw [abs_of_nonpos (by linarith : y - m * 2 ^ s ≤ 0)] at greatest
  rcases le_abs.mp greatest with above | below <;> linarith

/-! ### Rounding -/

/-- The number of the format that `± q` is rounded to. -/
inductive Rounds (negative : Bool) (q : ℚ) : Binary f → Prop
  | finite {m s : Nat} (near : q < f.limit) (reach : s ≤ f.maxShift)
      (nearest : Nearest f (· ≤ f.maxShift) (q * 2 ^ f.scale) m s) : Rounds negative q (.finite negative m s)
  | infinite (far : f.limit ≤ q) : Rounds negative q (.infinite negative)

variable {negative : Bool} {q : ℚ} {x x' : Binary f}

theorem Rounds.unique (precise : 2 ≤ f.precision) (rounds : Rounds negative q x) (rounds' : Rounds negative q x') :
    x = x' := by
  rcases rounds with ⟨near, reach, nearest⟩ | far <;> rcases rounds' with ⟨near', reach', nearest'⟩ | far'
  · obtain ⟨rfl, rfl⟩ := nearest_unique precise nearest nearest' reach reach'
    rfl
  · exact absurd near (not_lt.mpr far')
  · exact absurd near' (not_lt.mpr far)
  · rfl

theorem Rounds.eq_iff (precise : 2 ≤ f.precision) (rounds : Rounds negative q x) (x' : Binary f) :
    Rounds negative q x' ↔ x' = x :=
  ⟨fun rounds' => rounds'.unique precise rounds, fun same => same ▸ rounds⟩

theorem Rounds.canonical (rounds : Rounds negative q x) : x.Canonical := by
  rcases rounds with ⟨-, reach, nearest⟩ | -
  · exact ⟨nearest.normal.small, reach, nearest.normal.large⟩
  · trivial

/-- What is less than the limit is rounded to a finite number. -/
theorem Rounds.isFinite (rounds : Rounds negative q x) (near : q < f.limit) : x.isFinite = true := by
  rcases rounds with - | far
  · rfl
  · exact absurd near (not_lt.mpr far)

/-- A quotient is rounded correctly. -/
theorem rounds_ofRatio (precise : 2 ≤ f.precision) (pos : 0 < den) (negative : Bool) (num : Nat) :
    Rounds negative (num / den) (ofRatio f negative num den) := by
  have nearest := nearest_spec precise pos num
  have units : ((num * 2 ^ f.scale : Nat) : ℚ) / den = num / den * 2 ^ f.scale := by
    push_cast
    ring
  rw [units] at nearest
  change Rounds negative _ (if (Binary.nearest f num den).2 ≤ f.maxShift then
    finite negative (Binary.nearest f num den).1 (Binary.nearest f num den).2 else infinite negative)
  split
  · rename_i reach
    have near := FloatFormat.lt_limit_iff.mpr (lt_of_shift_le precise nearest reach)
    exact .finite near reach (nearest.mono fun _ _ => trivial)
  · rename_i beyond
    exact .infinite (not_lt.mp fun near => beyond (shift_le_of_lt precise nearest (FloatFormat.lt_limit_iff.mp near)))

/-- A number of the format is rounded to itself. -/
theorem rounds_self (canonical : Canonical (finite (f := f) negative m s)) :
    Rounds negative (f.magnitude m s) (finite (f := f) negative m s) := by
  obtain ⟨small, reach, large⟩ := canonical
  refine .finite ((FloatFormat.magnitude_le_greatest small reach).trans_lt f.greatest_lt_limit) reach ?_
  rw [FloatFormat.magnitude_mul]
  refine ⟨⟨small, large⟩, fun m' s' _ _ => ?_, fun m' s' _ _ tie => Or.inl ?_⟩
  · rw [sub_self, abs_zero]
    exact abs_nonneg _
  · rw [sub_self, abs_zero, abs_eq_zero, sub_eq_zero] at tie
    exact_mod_cast tie.symm

/-- A finite number is rounded correctly to another format. -/
theorem rounds_convert {g : FloatFormat} (precise : 2 ≤ g.precision) (negative : Bool) (m s : Nat) :
    Rounds negative (f.magnitude m s) ((finite (f := f) negative m s).convert g) := by
  have rounds := @rounds_ofRatio g _ precise (Nat.two_pow_pos f.scale) negative (m * 2 ^ s)
  push_cast at rounds
  exact rounds

theorem convert_self (precise : 2 ≤ f.precision) (canonical : x.Canonical) : x.convert f = x := by
  rcases x with _ | negative | ⟨negative, m, s⟩
  · rfl
  · rfl
  · exact (rounds_convert precise negative m s).unique precise (rounds_self canonical)

theorem fitsIn_iff {g : FloatFormat} :
    (finite (f := f) negative m s).fitsIn g = true ↔ f.magnitude m s ≤ g.greatest := by
  rw [fitsIn, decide_eq_true_eq, FloatFormat.greatest, FloatFormat.magnitude, FloatFormat.magnitude,
    div_le_div_iff₀ (by positivity) (by positivity)]
  exact_mod_cast Iff.rfl

end Binary

end StoreAccess
