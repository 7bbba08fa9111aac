import Mathlib.Data.List.TakeWhile
import Mathlib.Tactic.NormNum
import StoreAccess.Proofs.Number.Nearest
import StoreAccess.Proofs.Number.ShortestText

/-! Which texts are read as floating-point numbers. A literal is a sign or none and a decimal, digits with at most one
    point among or beside them and then a power of ten or none, or the name of infinity or of what is no number. A
    decimal is rounded correctly to a number of the format. -/

namespace StoreAccess

variable {negative : Bool} {cs sign ds rest : List Char} {n : Nat} {e : Int}

namespace FloatLiteral

/-! ### Literals -/

/-- The signs. -/
inductive Sign : Bool → List Char → Prop
  | none : Sign false []
  | plus : Sign false ['+']
  | minus : Sign true ['-']

/-- The powers of ten, by their exponents. -/
inductive Power : List Char → Int → Prop
  | none : Power [] 0
  | some {letter : Char} {negative : Bool} {sign ds : List Char} (mark : letter = 'e' ∨ letter = 'E')
      (starts : Sign negative sign) (digits : ∀ c ∈ ds, c.isDigit = true) (nonempty : ds ≠ []) :
      Power (letter :: (sign ++ ds))
        (if negative then -(Nat.ofDigitChars 10 ds 0 : Int) else Nat.ofDigitChars 10 ds 0)

/-- The decimals without a sign, as whole numbers of a power of ten. -/
inductive Decimal : List Char → Nat → Int → Prop
  | whole {ds power : List Char} {e : Int} (digits : ∀ c ∈ ds, c.isDigit = true) (nonempty : ds ≠ [])
      (scales : Power power e) : Decimal (ds ++ power) (Nat.ofDigitChars 10 ds 0) e
  | point {whole fraction power : List Char} {e : Int} (digits : ∀ c ∈ whole ++ fraction, c.isDigit = true)
      (nonempty : whole ++ fraction ≠ []) (scales : Power power e) :
      Decimal (whole ++ '.' :: (fraction ++ power)) (Nat.ofDigitChars 10 (whole ++ fraction) 0) (e - fraction.length)

/-- The text is a literal of the number `± n * 10 ^ e`. -/
inductive Writes : List Char → Bool → Nat → Int → Prop
  | intro {negative : Bool} {sign cs : List Char} {n : Nat} {e : Int} (starts : Sign negative sign)
      (decimal : Decimal cs n e) : Writes (sign ++ cs) negative n e

/-- The text is a literal of the finite number `± q`. -/
def Denotes (cs : List Char) (negative : Bool) (q : ℚ) : Prop :=
  ∃ (n : Nat) (e : Int), Writes cs negative n e ∧ q = n * 10 ^ e

/-- The text names an infinity, after a sign or none and in any case. -/
inductive SpellsInfinity : List Char → Bool → Prop
  | intro {negative : Bool} {sign name : List Char} (starts : Sign negative sign)
      (spelled : Text.lowerAscii name = ['i', 'n', 'f'] ∨
        Text.lowerAscii name = ['i', 'n', 'f', 'i', 'n', 'i', 't', 'y']) : SpellsInfinity (sign ++ name) negative

/-- The text names what is no number, after a sign or none and in any case. -/
inductive SpellsNan : List Char → Prop
  | intro {negative : Bool} {sign name : List Char} (starts : Sign negative sign)
      (spelled : Text.lowerAscii name = ['n', 'a', 'n']) : SpellsNan (sign ++ name)

/-! ### Signs -/

theorem exists_takeSign (cs : List Char) : ∃ sign, Sign (takeSign cs).1 sign ∧ cs = sign ++ (takeSign cs).2 := by
  unfold takeSign
  split
  · exact ⟨['-'], .minus, rfl⟩
  · exact ⟨['+'], .plus, rfl⟩
  · exact ⟨[], .none, rfl⟩

theorem takeSign_append (starts : Sign negative sign) (unsigned : ∀ c ∈ rest.head?, c ≠ '+' ∧ c ≠ '-') :
    takeSign (sign ++ rest) = (negative, rest) := by
  cases starts with
  | plus | minus => rfl
  | none =>
    cases rest with
    | nil => rfl
    | cons c rest =>
      obtain ⟨plus, minus⟩ := unsigned c rfl
      unfold takeSign
      split
      · rename_i same
        exact absurd (List.cons.inj same).1 minus
      · rename_i same
        exact absurd (List.cons.inj same).1 plus
      · rfl

theorem unsigned_of_isDigit {c : Char} (digit : c.isDigit = true) : c ≠ '+' ∧ c ≠ '-' := by
  constructor <;> rintro rfl <;> exact absurd digit (by decide)

/-! ### Digits -/

theorem digitsValue_eq_ofDigitChars (digits : ∀ c ∈ ds, c.isDigit = true) : digitsValue ds = Nat.ofDigitChars 10 ds 0 :=
  digitsValue_eq fun c there => (isDigit_eq c).trans (digits c there)

/-- Digits are told from what follows them. -/
theorem span_digits (digits : ∀ c ∈ ds, c.isDigit = true) (ended : ∀ c ∈ rest.head?, c.isDigit = false) :
    (ds ++ rest).takeWhile isDigit = ds ∧ (ds ++ rest).dropWhile isDigit = rest := by
  have all : ∀ c ∈ ds, isDigit c = true := fun c there => (isDigit_eq c).trans (digits c there)
  have nothing : rest.takeWhile isDigit = [] ∧ rest.dropWhile isDigit = rest := by
    cases rest with
    | nil => exact ⟨rfl, rfl⟩
    | cons c rest =>
      have other : ¬isDigit c = true := by
        rw [isDigit_eq, ended c rfl]
        decide
      exact ⟨List.takeWhile_cons_of_neg other, List.dropWhile_cons_of_neg other⟩
  rw [List.takeWhile_append_of_pos all, List.dropWhile_append_of_pos all, nothing.1, nothing.2, List.append_nil]
  exact ⟨rfl, rfl⟩

theorem isDigit_of_mem_takeWhile {c : Char} (there : c ∈ cs.takeWhile isDigit) : c.isDigit = true :=
  (isDigit_eq c).symm.trans (List.mem_takeWhile_imp there)

/-! ### Decimals -/

theorem exponent?_eq_some_iff : exponent? cs = some e ↔ Power cs e := by
  constructor
  · intro read
    cases cs with
    | nil =>
      cases read
      exact .none
    | cons letter rest =>
      simp only [exponent?] at read
      split at read
      · rename_i mark
        obtain ⟨sign, starts, split⟩ := exists_takeSign rest
        generalize takeSign rest = taken at *
        split at read
        · rename_i some
          rw [Bool.and_eq_true, Bool.not_eq_true', List.isEmpty_eq_false_iff, List.all_eq_true] at some
          have digits : ∀ c ∈ taken.2, c.isDigit = true := fun c there => (isDigit_eq c).symm.trans (some.2 c there)
          cases read
          rw [split, digitsValue_eq_ofDigitChars digits]
          exact .some mark starts digits some.1
        · cases read
      · cases read
  · rintro (_ | ⟨mark, starts, digits, nonempty⟩)
    · rfl
    · rename_i letter negative sign ds
      have unsigned : ∀ c ∈ ds.head?, c ≠ '+' ∧ c ≠ '-' := fun c there =>
        unsigned_of_isDigit (digits c (List.mem_of_mem_head? there))
      have all : ds.all isDigit = true := List.all_eq_true.mpr fun c there => (isDigit_eq c).trans (digits c there)
      simp only [exponent?, mark, ↓reduceIte, takeSign_append starts unsigned, List.isEmpty_eq_false_iff.mpr nonempty,
        all, Bool.not_false, Bool.and_self, digitsValue_eq_ofDigitChars digits]

theorem Power.ended (power : Power cs e) : ∀ c ∈ cs.head?, c.isDigit = false ∧ c ≠ '.' := by
  intro c there
  cases power with
  | none => cases there
  | some mark =>
    cases there
    rcases mark with rfl | rfl <;> decide

/-- The digits after a point and what follows them. Without a point there are none. -/
def afterPoint : List Char → List Char × List Char
  | '.' :: rest => (rest.takeWhile isDigit, rest.dropWhile isDigit)
  | rest => ([], rest)

theorem afterPoint_cases (cs : List Char) :
    (∃ fraction power, cs = '.' :: (fraction ++ power) ∧ (∀ c ∈ fraction, c.isDigit = true) ∧
      afterPoint cs = (fraction, power)) ∨ afterPoint cs = ([], cs) := by
  unfold afterPoint
  split
  · rename_i rest
    exact Or.inl ⟨_, _, congrArg _ List.takeWhile_append_dropWhile.symm, fun c => isDigit_of_mem_takeWhile, rfl⟩
  · exact Or.inr rfl

theorem unsignedDecimal?_eq :
    unsignedDecimal? negative cs =
      if (cs.takeWhile isDigit).isEmpty && (afterPoint (cs.dropWhile isDigit)).1.isEmpty then none
      else (exponent? (afterPoint (cs.dropWhile isDigit)).2).map fun e =>
        .decimal negative (digitsValue (cs.takeWhile isDigit ++ (afterPoint (cs.dropWhile isDigit)).1))
          (e - (afterPoint (cs.dropWhile isDigit)).1.length) := rfl

/-- What a decimal consists of, as it is taken apart. -/
theorem unsignedDecimal?_of_parts {whole fraction power tail : List Char} (before : cs.takeWhile isDigit = whole)
    (after : cs.dropWhile isDigit = tail) (point : afterPoint tail = (fraction, power))
    (digits : ∀ c ∈ whole ++ fraction, c.isDigit = true) (nonempty : whole ++ fraction ≠ []) (scales : Power power e) :
    unsignedDecimal? negative cs =
      some (.decimal negative (Nat.ofDigitChars 10 (whole ++ fraction) 0) (e - fraction.length)) := by
  have some : ¬(whole.isEmpty && fraction.isEmpty) = true := by
    rw [Bool.and_eq_true, List.isEmpty_iff, List.isEmpty_iff]
    exact fun ⟨noWhole, noFraction⟩ => nonempty (by rw [noWhole, noFraction]; rfl)
  rw [unsignedDecimal?_eq, before, after, point, if_neg some, exponent?_eq_some_iff.mpr scales,
    digitsValue_eq_ofDigitChars digits]
  rfl

theorem unsignedDecimal?_of_decimal (decimal : Decimal cs n e) :
    unsignedDecimal? negative cs = some (.decimal negative n e) := by
  cases decimal with
  | whole digits nonempty scales =>
    rename_i ds power
    obtain ⟨before, after⟩ := span_digits digits fun c there => (scales.ended c there).1
    have point : afterPoint power = ([], power) := by
      unfold afterPoint
      split
      · exact absurd rfl (scales.ended '.' rfl).2
      · rfl
    rw [← List.append_nil ds] at digits nonempty
    rw [unsignedDecimal?_of_parts before after point digits nonempty scales, List.append_nil, List.length_nil,
      Nat.cast_zero, sub_zero]
  | point digits nonempty scales =>
    rename_i whole fraction power e
    obtain ⟨inWhole, inFraction⟩ := List.forall_mem_append.mp digits
    have ended : ∀ c ∈ ('.' :: (fraction ++ power)).head?, c.isDigit = false := by
      rintro c ⟨⟩
      rfl
    obtain ⟨before, after⟩ := span_digits inWhole ended
    obtain ⟨before', after'⟩ := span_digits inFraction fun c there => (scales.ended c there).1
    exact unsignedDecimal?_of_parts before after (congrArg₂ Prod.mk before' after') digits nonempty scales

theorem exists_decimal_of_unsignedDecimal? {literal : FloatLiteral}
    (read : unsignedDecimal? negative cs = some literal) : ∃ n e, literal = .decimal negative n e ∧ Decimal cs n e := by
  have parts : cs.takeWhile isDigit ++ cs.dropWhile isDigit = cs := List.takeWhile_append_dropWhile
  have inWhole : ∀ c ∈ cs.takeWhile isDigit, c.isDigit = true := fun c => isDigit_of_mem_takeWhile
  rw [unsignedDecimal?_eq] at read
  generalize cs.takeWhile isDigit = whole at *
  generalize cs.dropWhile isDigit = tail at *
  subst parts
  split at read
  · cases read
  · rename_i some
    obtain ⟨e, power, rfl⟩ := Option.map_eq_some_iff.mp read
    refine ⟨_, _, rfl, ?_⟩
    rw [exponent?_eq_some_iff] at power
    rw [Bool.and_eq_true, List.isEmpty_iff, List.isEmpty_iff] at some
    rcases afterPoint_cases tail with ⟨fraction, rest, rfl, inFraction, point⟩ | point <;> rw [point] at some power ⊢
    · have digits := List.forall_mem_append.mpr ⟨inWhole, inFraction⟩
      rw [digitsValue_eq_ofDigitChars digits]
      exact .point digits (mt List.append_eq_nil_iff.mp some) power
    · dsimp only
      rw [List.append_nil, List.length_nil, Nat.cast_zero, sub_zero, digitsValue_eq_ofDigitChars inWhole]
      exact .whole inWhole (fun empty => some ⟨empty, rfl⟩) power

/-! ### Names -/

theorem named?_eq_some_iff {literal : FloatLiteral} :
    named? negative cs = some literal ↔
      (literal = .nan ∧ Text.lowerAscii cs = ['n', 'a', 'n']) ∨
        literal = .infinite negative ∧
          (Text.lowerAscii cs = ['i', 'n', 'f'] ∨ Text.lowerAscii cs = ['i', 'n', 'f', 'i', 'n', 'i', 't', 'y']) := by
  simp only [named?]
  constructor
  · intro named
    split at named
    · rename_i spelled
      cases named
      exact Or.inl ⟨rfl, spelled⟩
    · split at named
      · rename_i spelled
        cases named
        exact Or.inr ⟨rfl, spelled⟩
      · cases named
  · rintro (⟨rfl, spelled⟩ | ⟨rfl, spelled⟩)
    · exact if_pos spelled
    · rw [if_neg (by rcases spelled with spelled | spelled <;> rw [spelled] <;> decide), if_pos spelled]

theorem lowerAsciiChar_ne_of_isDigit {c : Char} (digit : c.isDigit = true) : Text.lowerAsciiChar c ≠ 'n' := by
  have small : ¬('A' ≤ c ∧ c ≤ 'Z') := fun ⟨large, _⟩ => by
    have low : 65 ≤ c.toNat := large
    have high := (toNat_of_isDigit ((isDigit_eq c).trans digit)).2
    omega
  rw [Text.lowerAsciiChar, if_neg small]
  rintro rfl
  exact absurd digit (by decide)

theorem Sign.mem_cases (starts : Sign negative sign) : ∀ c ∈ sign, c = '+' ∨ c = '-' := by
  cases starts <;> simp

/-- No literal of a finite number has the letter that all names have. -/
theorem Power.lower_ne (power : Power cs e) : ∀ c ∈ cs, Text.lowerAsciiChar c ≠ 'n' := by
  cases power with
  | none => exact fun c there => (by cases there)
  | some mark starts digits nonempty =>
    intro c there
    rcases List.mem_cons.mp there with rfl | there
    · rcases mark with rfl | rfl <;> decide
    · rcases List.mem_append.mp there with there | there
      · rcases starts.mem_cases c there with rfl | rfl <;> decide
      · exact lowerAsciiChar_ne_of_isDigit (digits c there)

theorem Decimal.lower_ne (decimal : Decimal cs n e) : ∀ c ∈ cs, Text.lowerAsciiChar c ≠ 'n' := by
  intro c there
  cases decimal with
  | whole digits nonempty scales =>
    exact (List.mem_append.mp there).elim (lowerAsciiChar_ne_of_isDigit <| digits c ·) (scales.lower_ne c)
  | point digits nonempty scales =>
    obtain ⟨inWhole, inFraction⟩ := List.forall_mem_append.mp digits
    rcases List.mem_append.mp there with there | there
    · exact lowerAsciiChar_ne_of_isDigit (inWhole c there)
    · rcases List.mem_cons.mp there with rfl | there
      · decide
      · exact (List.mem_append.mp there).elim (lowerAsciiChar_ne_of_isDigit <| inFraction c ·) (scales.lower_ne c)

theorem Decimal.not_mem (decimal : Decimal cs n e) : 'n' ∉ Text.lowerAscii cs := by
  intro there
  obtain ⟨c, inText, lowered⟩ := List.mem_map.mp there
  exact decimal.lower_ne c inText lowered

/-! ### Signs before decimals and names -/

theorem Decimal.unsigned (decimal : Decimal cs n e) : ∀ c ∈ cs.head?, c ≠ '+' ∧ c ≠ '-' := by
  intro c there
  cases decimal with
  | whole digits nonempty scales =>
    obtain ⟨d, ds, rfl⟩ := List.exists_cons_of_ne_nil nonempty
    cases there
    exact unsigned_of_isDigit (digits _ List.mem_cons_self)
  | @point whole fraction power e digits nonempty scales =>
    cases whole with
    | nil =>
      cases there
      decide
    | cons d whole =>
      cases there
      exact unsigned_of_isDigit (digits _ List.mem_cons_self)

theorem unsigned_of_not_mem (plus : '+' ∉ Text.lowerAscii cs) (minus : '-' ∉ Text.lowerAscii cs) :
    ∀ c ∈ cs.head?, c ≠ '+' ∧ c ≠ '-' := by
  refine fun c there => ⟨?_, ?_⟩ <;> rintro rfl
  · exact plus (List.mem_map.mpr ⟨'+', List.mem_of_mem_head? there, rfl⟩)
  · exact minus (List.mem_map.mpr ⟨'-', List.mem_of_mem_head? there, rfl⟩)

theorem read?_append (starts : Sign negative sign) (unsigned : ∀ c ∈ rest.head?, c ≠ '+' ∧ c ≠ '-') :
    read? (sign ++ rest) = (unsignedDecimal? negative rest).or (named? negative rest) := by
  rw [read?, takeSign_append starts unsigned, Option.or_eq_orElse]

theorem read?_of_name {literal : FloatLiteral} (starts : Sign negative sign)
    (named : named? negative rest = some literal) : read? (sign ++ rest) = some literal := by
  have letters : 'n' ∈ Text.lowerAscii rest ∧ '+' ∉ Text.lowerAscii rest ∧ '-' ∉ Text.lowerAscii rest := by
    rcases named?_eq_some_iff.mp named with ⟨-, spelled⟩ | ⟨-, spelled | spelled⟩ <;> rw [spelled] <;> decide
  obtain ⟨letter, plus, minus⟩ := letters
  have undecimal : unsignedDecimal? negative rest = none := Option.eq_none_iff_forall_not_mem.mpr fun literal read => by
    obtain ⟨n, e, -, decimal⟩ := exists_decimal_of_unsignedDecimal? read
    exact decimal.not_mem letter
  rw [read?_append starts (unsigned_of_not_mem plus minus), undecimal, Option.none_or, named]

theorem exists_of_read? {literal : FloatLiteral} (read : read? cs = some literal) :
    ∃ negative sign rest, Sign negative sign ∧ cs = sign ++ rest ∧
      (unsignedDecimal? negative rest = some literal ∨ named? negative rest = some literal) := by
  obtain ⟨sign, starts, split⟩ := exists_takeSign cs
  refine ⟨_, sign, _, starts, split, ?_⟩
  change (unsignedDecimal? (takeSign cs).1 (takeSign cs).2).orElse _ = _ at read
  rw [← Option.or_eq_orElse, Option.or_eq_some_iff] at read
  exact read.imp_right And.right

theorem read?_eq_decimal_iff : read? cs = some (.decimal negative n e) ↔ Writes cs negative n e := by
  constructor
  · intro read
    obtain ⟨negative', sign, rest, starts, rfl, decimal | named⟩ := exists_of_read? read
    · obtain ⟨n', e', same, decimal⟩ := exists_decimal_of_unsignedDecimal? decimal
      cases same
      exact ⟨starts, decimal⟩
    · rcases named?_eq_some_iff.mp named with ⟨same, -⟩ | ⟨same, -⟩ <;> cases same
  · rintro ⟨starts, decimal⟩
    rw [read?_append starts decimal.unsigned, unsignedDecimal?_of_decimal decimal, Option.some_or]

theorem read?_eq_infinite_iff : read? cs = some (.infinite negative) ↔ SpellsInfinity cs negative := by
  constructor
  · intro read
    obtain ⟨negative', sign, rest, starts, rfl, decimal | named⟩ := exists_of_read? read
    · obtain ⟨n', e', same, -⟩ := exists_decimal_of_unsignedDecimal? decimal
      cases same
    · rcases named?_eq_some_iff.mp named with ⟨same, -⟩ | ⟨same, spelled⟩ <;> cases same
      exact ⟨starts, spelled⟩
  · rintro ⟨starts, spelled⟩
    exact read?_of_name starts (named?_eq_some_iff.mpr (Or.inr ⟨rfl, spelled⟩))

theorem read?_eq_nan_iff : read? cs = some .nan ↔ SpellsNan cs := by
  constructor
  · intro read
    obtain ⟨negative', sign, rest, starts, rfl, decimal | named⟩ := exists_of_read? read
    · obtain ⟨n', e', same, -⟩ := exists_decimal_of_unsignedDecimal? decimal
      cases same
    · rcases named?_eq_some_iff.mp named with ⟨-, spelled⟩ | ⟨same, -⟩
      · exact ⟨starts, spelled⟩
      · cases same
  · rintro ⟨starts, spelled⟩
    exact read?_of_name starts (named?_eq_some_iff.mpr (Or.inl ⟨rfl, spelled⟩))

/-! ### Rounding -/

/-- What is at most half of the least positive number is rounded to zero. -/
theorem rounds_zero {f : FloatFormat} {q : ℚ} (precise : 0 < f.precision) (nonneg : 0 ≤ q)
    (tiny : q * 2 ^ f.scale ≤ 1 / 2) (negative : Bool) : Binary.Rounds negative q (.finite (f := f) negative 0 0) := by
  have units : 0 ≤ q * 2 ^ f.scale := by positivity
  have near : q < f.limit := by
    have mantissas : (2 : ℚ) ≤ 2 ^ f.precision := by exact_mod_cast Nat.pow_le_pow_right (n := 2) (by decide) precise
    have unit : (1 : ℚ) ≤ 2 ^ f.maxShift := one_le_pow₀ (by norm_num)
    rw [FloatFormat.lt_limit_iff]
    nlinarith
  have grid : Binary.OnGrid (q * 2 ^ f.scale) (2 ^ 0) 0 := by
    rw [pow_zero]
    exact ⟨by norm_num; linarith, by norm_num; linarith, fun odd => absurd odd (by decide)⟩
  have zero : f.Normal 0 0 := ⟨Nat.two_pow_pos _, Or.inl rfl⟩
  exact .finite near (Nat.zero_le _)
    ⟨zero, fun m' s' _ normal' => (grid.spec precise (Or.inl rfl) normal').1, fun m' s' _ _ _ => Or.inr rfl⟩

/-- A power of ten with so many places is beyond the format. -/
theorem limit_le {f : FloatFormat} {places : Nat} (many : f.precision + f.maxShift ≤ f.scale + 3 * places) :
    f.limit ≤ 10 ^ places := by
  have powers : 2 ^ f.precision * 2 ^ f.maxShift ≤ 10 ^ places * 2 ^ f.scale :=
    calc 2 ^ f.precision * 2 ^ f.maxShift = 2 ^ (f.precision + f.maxShift) := (Nat.pow_add ..).symm
      _ ≤ 2 ^ (f.scale + 3 * places) := Nat.pow_le_pow_right (by decide) many
      _ = 2 ^ (3 * places) * 2 ^ f.scale := by rw [Nat.pow_add, Nat.mul_comm]
      _ ≤ 10 ^ places * 2 ^ f.scale := Nat.mul_le_mul_right _ (Shortest.two_pow_le_ten_pow (Nat.le_refl _))
  have cast : (2 ^ f.precision * 2 ^ f.maxShift : ℚ) ≤ 10 ^ places * 2 ^ f.scale := by exact_mod_cast powers
  have unit : (0 : ℚ) < 2 ^ f.maxShift := by positivity
  refine not_lt.mp fun below => ?_
  rw [FloatFormat.lt_limit_iff] at below
  linarith

/-- Digits so many places after the point are at most half of the least positive number. -/
theorem tiny_of_places {f : FloatFormat} {places : Nat} (many : n.log2 + 1 + (f.scale + 1) ≤ 3 * places) :
    (n : ℚ) / 10 ^ places * 2 ^ f.scale ≤ 1 / 2 := by
  have digits : n * 2 ^ (f.scale + 1) ≤ 10 ^ places :=
    calc n * 2 ^ (f.scale + 1) ≤ 2 ^ (n.log2 + 1) * 2 ^ (f.scale + 1) :=
          Nat.mul_le_mul_right _ (Nat.le_of_lt Nat.lt_log2_self)
      _ = 2 ^ (n.log2 + 1 + (f.scale + 1)) := (Nat.pow_add ..).symm
      _ ≤ 10 ^ places := Shortest.two_pow_le_ten_pow many
  have cast : (n * 2 ^ (f.scale + 1) : ℚ) ≤ 10 ^ places := by exact_mod_cast digits
  have power : (0 : ℚ) < 10 ^ places := by positivity
  rw [div_mul_eq_mul_div, div_le_iff₀ power]
  rw [pow_succ] at cast
  linarith

/-- A decimal is rounded correctly, also where its power of ten is beyond those of the format. -/
theorem rounds_value {f : FloatFormat} (precise : 2 ≤ f.precision) (top : f.precision + f.maxShift ≤ f.scale + 1200)
    (bottom : f.scale ≤ 1199) (negative : Bool) (n : Nat) (e : Int) :
    Binary.Rounds negative (n * 10 ^ e : ℚ) (value f (.decimal negative n e)) := by
  rw [value]
  split
  · rename_i zero
    rw [zero, Nat.cast_zero, zero_mul]
    exact rounds_zero (by omega) (le_refl 0) (by norm_num) negative
  rename_i nonzero
  split
  · rename_i far
    obtain ⟨places, rfl⟩ := Int.eq_ofNat_of_zero_le (Int.le_of_lt (Int.lt_trans (by decide) far))
    rw [reach] at far
    have one : (1 : ℚ) ≤ n := by exact_mod_cast Nat.pos_of_ne_zero nonzero
    have power : (0 : ℚ) < 10 ^ places := by positivity
    have least := @limit_le f places (by omega)
    rw [zpow_natCast]
    exact .infinite (by nlinarith)
  obtain ⟨k, rfl | rfl⟩ := Int.eq_nat_or_neg e
  · rw [if_neg (by rw [reach]; omega), if_pos (Int.natCast_nonneg k), Int.toNat_natCast, zpow_natCast]
    have rounds := Binary.rounds_ofRatio precise Nat.one_pos negative (n * 10 ^ k)
    rwa [Nat.cast_one, div_one, Nat.cast_mul, Nat.cast_pow, Nat.cast_ofNat] at rounds
  · rw [zpow_neg, zpow_natCast, ← div_eq_mul_inv]
    split
    · rename_i far
      rw [reach] at far
      exact rounds_zero (by omega) (by positivity) (tiny_of_places (by omega)) negative
    · have rounds := Binary.rounds_ofRatio precise (Nat.pow_pos (n := k) (by decide : 0 < 10)) negative n
      rw [Nat.cast_pow, Nat.cast_ofNat] at rounds
      split
      · rename_i whole
        obtain rfl : k = 0 := by omega
        simpa using rounds
      · rwa [Int.neg_neg, Int.toNat_natCast]

theorem rounds_double (negative : Bool) (n : Nat) (e : Int) :
    Binary.Rounds negative (n * 10 ^ e : ℚ) (value .double (.decimal negative n e)) :=
  rounds_value (by decide) (by decide) (by decide) negative n e

end FloatLiteral

end StoreAccess
