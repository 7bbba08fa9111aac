import Mathlib.Tactic.Linarith
import Mathlib.Tactic.Ring
import StoreAccess.Number.Shortest

/-! Rounding to the nearest number of a format. The fractions that round to a number are those between the halves of the
    ways to its neighbours, the ends included iff its mantissa is even; these are the fractions that the interval of the
    number contains. -/

namespace StoreAccess

open Shortest (Interval)

variable {f : FloatFormat} {m s num den k : Nat}

/-- A quotient at most a half away from a number is rounded to it, and one a half away if the number is even. -/
theorem roundHalfEven_eq (pos : 0 < den) (low : 2 * k * den ≤ 2 * num + den)
    (high : 2 * num ≤ (2 * k + 1) * den)
    (even : k % 2 = 1 → 2 * k * den ≠ 2 * num + den ∧ 2 * num ≠ (2 * k + 1) * den) : roundHalfEven num den = k := by
  have split : den * (num / den) + num % den = num := Nat.div_add_mod num den
  have rest : num % den < den := Nat.mod_lt num pos
  unfold roundHalfEven
  generalize num / den = q at *
  generalize num % den = r at *
  have above : q ≤ k := by
    by_contra more
    have step : den * (k + 1) ≤ den * q := Nat.mul_le_mul_left den (by omega)
    nlinarith
  have below : k ≤ q + 1 := by
    by_contra under
    have step : den * (q + 2) ≤ den * k := Nat.mul_le_mul_left den (by omega)
    nlinarith
  dsimp only
  rcases Nat.lt_or_eq_of_le above with less | rfl
  · obtain rfl : k = q + 1 := by omega
    have upper : den ≤ 2 * r := by nlinarith
    rw [if_neg]
    rintro (near | ⟨half, evenQ⟩)
    · omega
    · exact (even (by omega)).1 (by rw [← split, ← half]; ring)
  · have lower : 2 * r ≤ den := by nlinarith
    rw [if_pos]
    rcases Nat.lt_or_eq_of_le lower with near | half
    · exact Or.inl near
    · refine Or.inr ⟨half, ?_⟩
      by_contra odd
      exact (even (by omega)).2 (by rw [← split, ← half]; ring)

theorem log2_add_one {n e : Nat} (low : 2 ^ e ≤ n) (high : n < 2 ^ (e + 1)) : n.log2 = e := by
  have pos : n ≠ 0 := by
    rintro rfl
    exact absurd low (Nat.not_le.mpr (Nat.two_pow_pos e))
  exact (Nat.log2_eq_iff pos).mpr ⟨low, high⟩

theorem FloatFormat.two_pow_precision (precise : 0 < f.precision) : 2 * 2 ^ (f.precision - 1) = 2 ^ f.precision := by
  rw [← Nat.pow_succ', Nat.succ_eq_add_one, Nat.sub_add_cancel precise]

namespace Binary

/-- The number is one of the format: its mantissa and its shift are within their bounds, and the mantissa is as large as
    the shift allows. -/
def Canonical : Binary f → Prop
  | finite _ mantissa shift =>
    mantissa < 2 ^ f.precision ∧ shift ≤ f.maxShift ∧ (shift = 0 ∨ 2 ^ (f.precision - 1) ≤ mantissa)
  | _ => True

theorem fitsIn_of_canonical {negative : Bool} (canonical : Canonical (finite (f := f) negative m s)) :
    (finite (f := f) negative m s).fitsIn f = true := by
  obtain ⟨small, reach, -⟩ := canonical
  have least : m ≤ f.maxMantissa := Nat.le_sub_one_of_lt small
  have power : 2 ^ s ≤ 2 ^ f.maxShift := Nat.pow_le_pow_right (by decide) reach
  exact decide_eq_true (Nat.mul_le_mul_right _ (Nat.mul_le_mul least power))

/-! ### Bit patterns -/

theorem ofBits_double (n : Nat) :
    ofBits .double n =
      if n % 2 ^ 63 / 2 ^ 52 = 2047 then
        if n % 2 ^ 63 % 2 ^ 52 = 0 then infinite (decide (2 ^ 63 ≤ n)) else nan
      else if n % 2 ^ 63 / 2 ^ 52 = 0 then finite (decide (2 ^ 63 ≤ n)) (n % 2 ^ 63 % 2 ^ 52) 0
      else finite (decide (2 ^ 63 ≤ n)) (n % 2 ^ 63 % 2 ^ 52 + 2 ^ 52) (n % 2 ^ 63 / 2 ^ 52 - 1) := rfl

/-- Every bit pattern is a number's of the format. -/
theorem canonical_ofBits (n : Nat) : (ofBits .double n).Canonical := by
  rw [ofBits_double]
  have bound : n % 2 ^ 63 < 2 ^ 63 := Nat.mod_lt _ (by decide)
  generalize n % 2 ^ 63 = magnitude at *
  split
  · split <;> exact trivial
  · rename_i field
    split
    · exact ⟨Nat.lt_trans (Nat.mod_lt _ (by decide)) (by decide), Nat.zero_le _, Or.inl rfl⟩
    · refine ⟨?_, ?_, Or.inr (Nat.le_add_left _ _)⟩
      · show _ + 2 ^ 52 < 2 ^ 53
        omega
      · show _ ≤ 2045
        omega

/-- The bit pattern of a number is read as the number. -/
theorem ofBits_bits {x : Double} (canonical : x.Canonical) : ofBits .double x.bits = x := by
  rcases x with _ | negative | ⟨negative, m, s⟩
  case nan => rfl
  case infinite => cases negative <;> rfl
  case finite =>
    obtain ⟨small, reach, large⟩ := canonical
    have written : (finite (f := .double) negative m s).bits = (if negative then 2 ^ 63 else 0) + s * 2 ^ 52 + m := rfl
    rw [written, ofBits_double]
    change m < 2 ^ 53 at small
    change s ≤ 2045 at reach
    change s = 0 ∨ 2 ^ 52 ≤ m at large
    have sign : decide (2 ^ 63 ≤ (if negative then 2 ^ 63 else 0) + s * 2 ^ 52 + m) = negative := by
      cases negative <;> simp <;> omega
    have magnitude : ((if negative then 2 ^ 63 else 0) + s * 2 ^ 52 + m) % 2 ^ 63 = s * 2 ^ 52 + m := by
      cases negative <;> simp <;> omega
    rw [sign, magnitude]
    rcases Nat.lt_or_ge m (2 ^ 52) with less | more
    · obtain rfl : s = 0 := by omega
      rw [if_neg (by omega), if_pos (by omega)]
      rw [Nat.zero_mul, Nat.zero_add, Nat.mod_eq_of_lt less]
    · rw [if_neg (by omega), if_neg (by omega)]
      obtain ⟨fraction, rfl⟩ := Nat.exists_eq_add_of_le' more
      have field : s * 2 ^ 52 + (fraction + 2 ^ 52) = (s + 1) * 2 ^ 52 + fraction := by ring
      have less : fraction < 2 ^ 52 := by omega
      have place : ((s + 1) * 2 ^ 52 + fraction) / 2 ^ 52 = s + 1 := by
        rw [Nat.mul_comm, Nat.mul_add_div (Nat.two_pow_pos 52), Nat.div_eq_of_lt less, Nat.add_zero]
      rw [field, place, Nat.mul_add_mod_of_lt less, Nat.add_sub_cancel]

theorem canonical_iff {x : Double} : x.Canonical ↔ ∃ n, x = ofBits .double n := by
  constructor
  · exact fun canonical => ⟨x.bits, (ofBits_bits canonical).symm⟩
  · rintro ⟨n, rfl⟩
    exact canonical_ofBits n

/-! ### The place of a fraction -/

theorem shift_eq {scaled : Nat} (precise : 0 < f.precision) (pos : 0 < den)
    (high : scaled < 2 ^ f.precision * (den * 2 ^ s)) (low : s = 0 ∨ 2 ^ (f.precision - 1) * (den * 2 ^ s) ≤ scaled) :
    (scaled / den).log2 + 1 - f.precision = s := by
  have below : scaled / den < 2 ^ (f.precision + s) := by
    rw [Nat.div_lt_iff_lt_mul pos, Nat.pow_add]
    calc scaled < 2 ^ f.precision * (den * 2 ^ s) := high
      _ = 2 ^ f.precision * 2 ^ s * den := by ring
  rcases low with rfl | low
  · by_cases zero : scaled / den = 0
    · rw [zero, Nat.log2_zero]
      omega
    · have bound := (Nat.log2_lt zero).mpr below
      omega
  · have above : 2 ^ (f.precision - 1 + s) ≤ scaled / den := by
      rw [Nat.le_div_iff_mul_le pos, Nat.pow_add]
      calc 2 ^ (f.precision - 1) * 2 ^ s * den = 2 ^ (f.precision - 1) * (den * 2 ^ s) := by ring
        _ ≤ scaled := low
    rw [log2_add_one above (by rwa [show f.precision - 1 + s + 1 = f.precision + s by omega])]
    omega

/-- How far below the number its interval reaches, in quarters of its unit: below a power of two the neighbours stand
    twice as close. -/
def gap (f : FloatFormat) (m s : Nat) : Nat := if m = 2 ^ (f.precision - 1) ∧ 0 < s then 1 else 2

/-- `scaled / unit` lies between the halves of the ways from `m` to its neighbours. -/
structure Within (m gap scaled unit : Nat) : Prop where
  low : 4 * m * unit ≤ 4 * scaled + gap * unit
  high : 4 * scaled ≤ (4 * m + 2) * unit
  odd : m % 2 = 1 → 4 * m * unit ≠ 4 * scaled + gap * unit ∧ 4 * scaled ≠ (4 * m + 2) * unit

theorem within_of_contains (contains : (Interval.ofFinite f m s).contains num den = true) :
    Within m (gap f m s) (num * 2 ^ f.scale) (den * 2 ^ s) := by
  have scaled : num * (4 * 2 ^ f.scale) = 4 * (num * 2 ^ f.scale) := by ring
  have units (k : Nat) : k * 2 ^ s * den = k * (den * 2 ^ s) := by ring
  simp only [Interval.contains, Interval.ofFinite, Nat.pow_eq, scaled, units, decide_eq_true_eq] at contains
  change (if m % 2 = 0 then decide ((4 * m - gap f m s) * _ ≤ _) && _
    else decide ((4 * m - gap f m s) * _ < _) && _) = true at contains
  rw [Nat.sub_mul] at contains
  split at contains
  · rename_i even
    rw [Bool.and_eq_true, decide_eq_true_eq, decide_eq_true_eq] at contains
    exact ⟨Nat.sub_le_iff_le_add.mp contains.1, contains.2, fun odd => by omega⟩
  · rw [Bool.and_eq_true, decide_eq_true_eq, decide_eq_true_eq] at contains
    obtain ⟨low, high⟩ := contains
    exact ⟨by omega, Nat.le_of_lt high, fun _ => ⟨by omega, Nat.ne_of_lt high⟩⟩

/-! ### Rounding -/

namespace Within

variable {g scaled unit : Nat}

theorem lt_of_lt {bound : Nat} (within : Within m g scaled unit) (pos : 0 < unit) (small : m < bound) :
    scaled < bound * unit := by
  have step : (m + 1) * unit ≤ bound * unit := Nat.mul_le_mul_right unit small
  have high := within.high
  nlinarith

/-- In the number's own place a fraction is rounded to the number. -/
theorem roundHalfEven_eq (within : Within m g scaled unit) (pos : 0 < unit) (close : g ≤ 2) :
    roundHalfEven scaled unit = m := by
  obtain ⟨low, high, odd⟩ := within
  have reach : g * unit ≤ 2 * unit := Nat.mul_le_mul_right unit close
  refine StoreAccess.roundHalfEven_eq pos (by nlinarith) (by nlinarith) fun oddM => ?_
  obtain ⟨lower, upper⟩ := odd oddM
  refine ⟨fun same => lower ?_, fun same => upper (by nlinarith)⟩
  have wide : 4 * m * unit = 4 * scaled + 2 * unit := by nlinarith
  omega

/-- In the place below its number a fraction is rounded to twice the number. -/
theorem roundHalfEven_double (within : Within m 1 scaled (2 * unit)) (pos : 0 < unit) (less : scaled < m * (2 * unit)) :
    roundHalfEven scaled unit = 2 * m := by
  have low := within.low
  refine StoreAccess.roundHalfEven_eq pos (by nlinarith) (by nlinarith) fun odd => ?_
  omega

end Within

/-- A fraction below the least mantissa of its number's place is a power of two's. -/
theorem power_of_lt {scaled unit : Nat} (within : Within m (gap f m s) scaled unit) (pos : 0 < unit) (shifted : s ≠ 0)
    (large : s = 0 ∨ 2 ^ (f.precision - 1) ≤ m) (less : scaled < 2 ^ (f.precision - 1) * unit) :
    m = 2 ^ (f.precision - 1) := by
  refine Nat.le_antisymm (Nat.not_lt.mp fun more => ?_) (large.resolve_left shifted)
  have low := within.low
  have close : gap f m s = 2 := if_neg fun power => (Nat.ne_of_gt more) power.1
  have step : (2 ^ (f.precision - 1) + 1) * unit ≤ m * unit := Nat.mul_le_mul_right unit more
  rw [close] at low
  nlinarith

/-- A fraction that the interval of a number contains is rounded to the number. -/
theorem nearest_of_contains (precise : 2 ≤ f.precision) (pos : 0 < den) (small : m < 2 ^ f.precision)
    (large : s = 0 ∨ 2 ^ (f.precision - 1) ≤ m) (contains : (Interval.ofFinite f m s).contains num den = true) :
    nearest f num den = (m, s) := by
  have within := within_of_contains contains
  have unit : 0 < den * 2 ^ s := Nat.mul_pos pos (Nat.two_pow_pos s)
  have bound := within.lt_of_lt unit small
  simp only [nearest, Nat.pow_eq]
  generalize num * 2 ^ f.scale = scaled at *
  by_cases level : s = 0 ∨ 2 ^ (f.precision - 1) * (den * 2 ^ s) ≤ scaled
  · have close : gap f m s ≤ 2 := by
      unfold gap
      split <;> omega
    rw [shift_eq (by omega) pos bound level, within.roundHalfEven_eq unit close, if_neg (Nat.ne_of_lt small)]
  · -- Below a power of two the fraction is rounded in the place below, up to the next power.
    rw [not_or, Nat.not_le] at level
    obtain ⟨shifted, less⟩ := level
    obtain ⟨place, rfl⟩ : ∃ place, s = place + 1 := ⟨s - 1, by omega⟩
    obtain rfl : m = 2 ^ (f.precision - 1) := power_of_lt within unit shifted large less
    have single : gap f (2 ^ (f.precision - 1)) (place + 1) = 1 := if_pos ⟨rfl, by omega⟩
    have double : den * 2 ^ (place + 1) = 2 * (den * 2 ^ place) := by ring
    have whole := f.two_pow_precision (by omega)
    rw [single, double] at within
    rw [double] at less
    have half : 0 < den * 2 ^ place := Nat.mul_pos pos (Nat.two_pow_pos place)
    have top : scaled < 2 ^ f.precision * (den * 2 ^ place) := by
      rw [← whole]
      linarith
    have bottom : 2 ^ (f.precision - 1) * (den * 2 ^ place) ≤ scaled := by
      have low := within.low
      have one : 1 ≤ 2 ^ (f.precision - 1) := Nat.one_le_two_pow
      nlinarith
    rw [shift_eq (by omega) pos top (Or.inr bottom), within.roundHalfEven_double half less, if_pos whole,
      Nat.mul_div_cancel_left _ (by omega)]

theorem ofRatio_of_contains (precise : 2 ≤ f.precision) (pos : 0 < den) (negative : Bool)
    (canonical : Canonical (finite (f := f) negative m s))
    (contains : (Interval.ofFinite f m s).contains num den = true) :
    ofRatio f negative num den = finite negative m s := by
  obtain ⟨small, reach, large⟩ := canonical
  rw [ofRatio, nearest_of_contains precise pos small large contains]
  exact if_pos reach

end Binary

end StoreAccess
