import StoreAccess.Proofs.Number.Decimal

/-! Which texts are read as integers. A literal is a sign or none and one or more digits, and a type reads the literals
    of the numbers that it holds. The digits are read onto a value that only grows, so a text is out of range as soon as
    what was read of it is too large for the widest type, whatever follows. Apart from that the texts out of range are
    the literals of other numbers, and all others are malformed. -/

namespace StoreAccess

variable {t : IntType} {signed : Bool} {sign ds cs : List Char} {apply : Nat → Int} {limit value m : Nat} {n : Int}

/-! ### Ranges -/

namespace IntType

theorem lowest_nonpos (t : IntType) : t.lowest ≤ 0 := by
  cases t <;> decide

theorem greatest_nonneg (t : IntType) : 0 ≤ t.greatest := by
  cases t <;> decide

theorem lowest_of_unsigned (unsigned : t.isSigned = false) : t.lowest = 0 := by
  rw [lowest, unsigned]
  rfl

theorem holds_iff : t.holds n = true ↔ t.lowest ≤ n ∧ n ≤ t.greatest := by
  rw [holds, Bool.and_eq_true, decide_eq_true_eq, decide_eq_true_eq]

theorem isSigned_widest (t : IntType) : t.widest.isSigned = t.isSigned := by
  cases t <;> rfl

theorem bounds_widest (t : IntType) : t.widest.lowest ≤ t.lowest ∧ t.greatest ≤ t.widest.greatest := by
  cases t <;> decide

theorem holds_widest (holds : t.holds n = true) : t.widest.holds n = true := by
  have := bounds_widest t
  rw [holds_iff] at holds ⊢
  omega

end IntType

namespace IntLiteral

/-! ### Literals -/

/-- The signs, and what they make of the number after them. Types without a sign take no minus. -/
inductive Sign (signed : Bool) : List Char → (Nat → Int) → Prop
  | none : Sign signed [] Int.ofNat
  | plus : Sign signed ['+'] Int.ofNat
  | minus (allowed : signed = true) : Sign signed ['-'] fun m => -Int.ofNat m

/-- The text is a literal of the number. -/
inductive Denotes (signed : Bool) : List Char → Int → Prop
  | intro {sign ds : List Char} {apply : Nat → Int} (starts : Sign signed sign apply)
      (digits : ∀ c ∈ ds, c.isDigit = true) (nonempty : ds ≠ []) :
      Denotes signed (sign ++ ds) (apply (Nat.ofDigitChars 10 ds 0))

theorem Denotes.isDigit_or_sign (literal : Denotes signed cs n) : ∀ c ∈ cs, c.isDigit = true ∨ c = '+' ∨ c = '-' := by
  obtain ⟨starts, digits, -⟩ := literal
  intro c there
  rcases List.mem_append.mp there with inSign | inDigits
  · cases starts with
    | none => cases inSign
    | plus => exact Or.inr (Or.inl (List.mem_singleton.mp inSign))
    | minus => exact Or.inr (Or.inr (List.mem_singleton.mp inSign))
  · exact Or.inl (digits c inDigits)

/-- The text is a literal of a number that the type holds. -/
def Holds (t : IntType) (cs : List Char) (n : Int) : Prop :=
  Denotes t.isSigned cs n ∧ t.lowest ≤ n ∧ n ≤ t.greatest

/-- The text starts with a literal of a number that the widest type does not hold. -/
def Overruns (t : IntType) (cs : List Char) : Prop :=
  ∃ literal rest n, cs = literal ++ rest ∧ Denotes t.isSigned literal n ∧ ¬(t.widest.lowest ≤ n ∧ n ≤ t.widest.greatest)

/-! ### Digits -/

theorem le_ofDigitChars (ds : List Char) (value : Nat) : value ≤ Nat.ofDigitChars 10 ds value := by
  rw [Nat.ofDigitChars_eq_ofDigitChars_zero]
  exact Nat.le_trans (Nat.le_mul_of_pos_left value (Nat.pow_pos (by decide))) (Nat.le_add_right _ _)

theorem readDigits_digit {c : Char} (digit : c.isDigit = true) (cs : List Char) :
    readDigits limit value (c :: cs) =
      if 10 * value + (c.toNat - '0'.toNat) ≤ limit then readDigits limit (10 * value + (c.toNat - '0'.toNat)) cs
      else .error .outOfRange := by
  have next : value * 10 + (c.toNat - 48) = 10 * value + (c.toNat - '0'.toNat) := by rw [Nat.mul_comm]; rfl
  simp only [readDigits, digit?_of_isDigit ((isDigit_eq c).trans digit), next]

theorem readDigits_other {c : Char} (other : ¬c.isDigit = true) (cs : List Char) :
    readDigits limit value (c :: cs) = .error .malformed := by
  have none : digit? c = none := by
    rw [← isDigit_eq c, FloatLiteral.isDigit] at other
    exact Option.not_isSome_iff_eq_none.mp other
  simp only [readDigits, none]

theorem readDigits_eq_ok_iff (within : value ≤ limit) :
    readDigits limit value cs = .ok m ↔
      (∀ c ∈ cs, c.isDigit = true) ∧ Nat.ofDigitChars 10 cs value = m ∧ m ≤ limit := by
  induction cs generalizing value with
  | nil =>
    refine ⟨fun read => ?_, fun ⟨_, same, _⟩ => congrArg Except.ok same⟩
    cases read
    exact ⟨fun c there => (by cases there), rfl, within⟩
  | cons c cs ih =>
    rw [List.forall_mem_cons, Nat.ofDigitChars_cons]
    by_cases digit : c.isDigit = true
    · rw [readDigits_digit digit]
      split
      · rename_i inside
        rw [ih inside, and_iff_right digit]
      · rename_i beyond
        refine ⟨fun read => (by cases read), fun ⟨_, same, inside⟩ => absurd ?_ beyond⟩
        exact Nat.le_trans (le_ofDigitChars cs _) (same ▸ inside)
    · rw [readDigits_other digit]
      exact ⟨fun read => (by cases read), fun ⟨digits, _⟩ => absurd digits.1 digit⟩

theorem readDigits_eq_outOfRange_iff (within : value ≤ limit) :
    readDigits limit value cs = .error .outOfRange ↔
      ∃ ds rest, cs = ds ++ rest ∧ (∀ c ∈ ds, c.isDigit = true) ∧ limit < Nat.ofDigitChars 10 ds value := by
  induction cs generalizing value with
  | nil =>
    refine ⟨fun read => (by cases read), fun ⟨ds, rest, split, _, beyond⟩ => ?_⟩
    obtain ⟨rfl, -⟩ := List.nil_eq_append_iff.mp split
    exact absurd within (Nat.not_le.mpr beyond)
  | cons c cs ih =>
    by_cases digit : c.isDigit = true
    · rw [readDigits_digit digit]
      split
      · rename_i inside
        rw [ih inside]
        constructor
        · rintro ⟨ds, rest, rfl, digits, beyond⟩
          exact ⟨c :: ds, rest, rfl, List.forall_mem_cons.mpr ⟨digit, digits⟩, by rwa [Nat.ofDigitChars_cons]⟩
        · rintro ⟨ds, rest, split, digits, beyond⟩
          cases ds with
          | nil => exact absurd within (Nat.not_le.mpr beyond)
          | cons d ds =>
            cases split
            rw [Nat.ofDigitChars_cons] at beyond
            exact ⟨ds, rest, rfl, (List.forall_mem_cons.mp digits).2, beyond⟩
      · rename_i beyond
        refine ⟨fun _ => ⟨[c], cs, rfl, List.forall_mem_singleton.mpr digit, ?_⟩, fun _ => rfl⟩
        rw [Nat.ofDigitChars_cons]
        exact Nat.not_le.mp beyond
    · rw [readDigits_other digit]
      refine ⟨fun read => (by cases read), fun ⟨ds, rest, split, digits, beyond⟩ => ?_⟩
      cases ds with
      | nil => exact absurd within (Nat.not_le.mpr beyond)
      | cons d ds =>
        cases split
        exact absurd (digits c List.mem_cons_self) digit

theorem readMagnitude_eq_ok_iff :
    readMagnitude limit cs = .ok m ↔
      cs ≠ [] ∧ (∀ c ∈ cs, c.isDigit = true) ∧ Nat.ofDigitChars 10 cs 0 = m ∧ m ≤ limit := by
  cases cs with
  | nil => exact ⟨fun read => (by cases read), fun ⟨nonempty, _⟩ => absurd rfl nonempty⟩
  | cons c cs =>
    rw [and_iff_right (List.cons_ne_nil c cs)]
    exact readDigits_eq_ok_iff (Nat.zero_le limit)

theorem readMagnitude_eq_outOfRange_iff :
    readMagnitude limit cs = .error .outOfRange ↔
      ∃ ds rest, cs = ds ++ rest ∧ (∀ c ∈ ds, c.isDigit = true) ∧ limit < Nat.ofDigitChars 10 ds 0 := by
  cases cs with
  | nil =>
    refine ⟨fun read => (by cases read), fun ⟨ds, rest, split, _, beyond⟩ => ?_⟩
    obtain ⟨rfl, -⟩ := List.nil_eq_append_iff.mp split
    cases beyond
  | cons c cs => exact readDigits_eq_outOfRange_iff (Nat.zero_le limit)

/-! ### Signs -/

/-- The greatest number that a type admits after a sign. -/
def most (t : IntType) (sign : List Char) : Nat :=
  if sign = ['-'] then (-t.lowest).toNat else t.greatest.toNat

theorem Sign.le_most_iff (starts : Sign t.isSigned sign apply) : m ≤ most t sign ↔ t.holds (apply m) = true := by
  have lowest := t.lowest_nonpos
  have greatest := t.greatest_nonneg
  have unsigned : ([] : List Char) ≠ ['-'] ∧ ['+'] ≠ ['-'] := by decide
  rw [IntType.holds_iff]
  cases starts with
  | none => rw [most, if_neg unsigned.1, Int.ofNat_eq_natCast]; omega
  | plus => rw [most, if_neg unsigned.2, Int.ofNat_eq_natCast]; omega
  | minus =>
    show m ≤ most t ['-'] ↔ t.lowest ≤ -(m : Int) ∧ -(m : Int) ≤ t.greatest
    rw [most, if_pos rfl]
    omega

/-- After its sign a text is read as digits, which cannot be taken for a sign of their own. -/
theorem Sign.read_append (starts : Sign t.isSigned sign apply) (digits : ∀ c ∈ ds, c.isDigit = true)
    (nonempty : ds ≠ []) (rest : List Char) :
    read t (sign ++ (ds ++ rest)) = (readMagnitude (most t sign) (ds ++ rest)).map apply := by
  cases starts with
  | plus => rfl
  | minus allowed => exact if_pos allowed
  | none =>
    obtain ⟨c, ds, rfl⟩ := List.exists_cons_of_ne_nil nonempty
    have digit := digits c List.mem_cons_self
    rw [List.nil_append, List.cons_append, read.eq_def]
    split
    · rename_i same
      cases same
      cases digit
    · rename_i same
      cases same
      cases digit
    · rfl

/-- What is read of a text at all is read after a sign. -/
theorem read_cases (t : IntType) (cs : List Char) :
    read t cs = .error .malformed ∨ ∃ sign apply rest, Sign t.isSigned sign apply ∧ cs = sign ++ rest ∧
      read t cs = (readMagnitude (most t sign) rest).map apply := by
  rw [read.eq_def]
  split
  · exact Or.inr ⟨['+'], _, _, .plus, rfl, rfl⟩
  · split
    · rename_i allowed
      exact Or.inr ⟨['-'], _, _, .minus allowed, rfl, rfl⟩
    · exact Or.inl rfl
  · exact Or.inr ⟨[], _, _, .none, rfl, rfl⟩

theorem read_eq_ok_iff : read t cs = .ok n ↔ Denotes t.isSigned cs n ∧ t.holds n = true := by
  constructor
  · intro read
    rcases read_cases t cs with malformed | ⟨sign, apply, ds, starts, rfl, same⟩
    · rw [malformed] at read
      cases read
    · rw [same] at read
      cases magnitude : readMagnitude (most t sign) ds with
      | error fault =>
        rw [magnitude] at read
        cases read
      | ok m =>
        rw [magnitude] at read
        cases read
        obtain ⟨nonempty, digits, rfl, within⟩ := readMagnitude_eq_ok_iff.mp magnitude
        exact ⟨.intro starts digits nonempty, starts.le_most_iff.mp within⟩
  · rintro ⟨⟨starts, digits, nonempty⟩, holds⟩
    have all := starts.read_append digits nonempty []
    have magnitude := readMagnitude_eq_ok_iff.mpr ⟨nonempty, digits, rfl, starts.le_most_iff.mpr holds⟩
    rw [List.append_nil, magnitude] at all
    exact all

theorem read_eq_outOfRange_iff :
    read t cs = .error .outOfRange ↔
      ∃ literal rest n, cs = literal ++ rest ∧ Denotes t.isSigned literal n ∧ ¬t.holds n = true := by
  constructor
  · intro read
    rcases read_cases t cs with malformed | ⟨sign, apply, rest, starts, rfl, same⟩
    · rw [malformed] at read
      cases read
    · rw [same] at read
      cases magnitude : readMagnitude (most t sign) rest with
      | ok m =>
        rw [magnitude] at read
        cases read
      | error fault =>
        rw [magnitude] at read
        cases read
        obtain ⟨ds, after, rfl, digits, beyond⟩ := readMagnitude_eq_outOfRange_iff.mp magnitude
        have nonempty : ds ≠ [] := by
          rintro rfl
          cases beyond
        refine ⟨sign ++ ds, after, _, (List.append_assoc ..).symm, .intro starts digits nonempty, fun holds => ?_⟩
        exact absurd (starts.le_most_iff.mpr holds) (Nat.not_le.mpr beyond)
  · rintro ⟨_, rest, _, rfl, ⟨starts, digits, nonempty⟩, outside⟩
    have beyond := Nat.not_le.mp (mt starts.le_most_iff.mp outside)
    rw [List.append_assoc, starts.read_append digits nonempty rest,
      readMagnitude_eq_outOfRange_iff.mpr ⟨_, rest, rfl, digits, beyond⟩]
    rfl

theorem read_literal (literal : Denotes t.isSigned cs n) :
    read t cs = if t.holds n then .ok n else .error .outOfRange := by
  split
  · rename_i holds
    exact read_eq_ok_iff.mpr ⟨literal, holds⟩
  · rename_i outside
    exact read_eq_outOfRange_iff.mpr ⟨cs, [], n, (List.append_nil cs).symm, literal, outside⟩

/-! ### Narrowing -/

theorem readNarrow_eq (t : IntType) (cs : List Char) :
    readNarrow t cs = (read t.widest cs).bind fun n => if t.holds n then .ok n else .error .outOfRange :=
  rfl

theorem readNarrow_literal (literal : Denotes t.isSigned cs n) :
    readNarrow t cs = if t.holds n then .ok n else .error .outOfRange := by
  rw [readNarrow_eq, read_literal (by rwa [IntType.isSigned_widest])]
  by_cases holds : t.holds n = true
  · rw [if_pos (IntType.holds_widest holds)]
    rfl
  · rw [if_neg holds]
    split
    · exact if_neg holds
    · rfl

theorem denotes_of_read_widest (number : read t.widest cs = .ok n) : Denotes t.isSigned cs n :=
  IntType.isSigned_widest t ▸ (read_eq_ok_iff.mp number).1

/-- A type reads the literals of the numbers that it holds and no other texts. -/
theorem readNarrow_eq_ok_iff : readNarrow t cs = .ok n ↔ Holds t cs n := by
  rw [Holds, ← IntType.holds_iff]
  constructor
  · intro narrow
    cases number : read t.widest cs with
    | error fault =>
      rw [readNarrow_eq, number] at narrow
      cases narrow
    | ok m =>
      have literal := denotes_of_read_widest number
      rw [readNarrow_literal literal] at narrow
      split at narrow
      · rename_i holds
        cases narrow
        exact ⟨literal, holds⟩
      · cases narrow
  · rintro ⟨literal, holds⟩
    rw [readNarrow_literal literal, if_pos holds]

/-- Out of range are the literals of the numbers that the type does not hold, and what starts with a literal too large
    for the widest type. -/
theorem readNarrow_eq_outOfRange_iff :
    readNarrow t cs = .error .outOfRange ↔
      (∃ n, Denotes t.isSigned cs n ∧ ¬(t.lowest ≤ n ∧ n ≤ t.greatest)) ∨ Overruns t cs := by
  have overruns : read t.widest cs = .error .outOfRange ↔ Overruns t cs := by
    rw [read_eq_outOfRange_iff, Overruns]
    simp only [IntType.isSigned_widest, IntType.holds_iff]
  constructor
  · intro narrow
    cases number : read t.widest cs with
    | error fault =>
      rw [readNarrow_eq, number] at narrow
      cases narrow
      exact Or.inr (overruns.mp number)
    | ok m =>
      have literal := denotes_of_read_widest number
      rw [readNarrow_literal literal] at narrow
      split at narrow
      · cases narrow
      · rename_i outside
        exact Or.inl ⟨m, literal, mt IntType.holds_iff.mpr outside⟩
  · rintro (⟨n, literal, outside⟩ | starts)
    · rw [readNarrow_literal literal, if_neg (mt IntType.holds_iff.mp outside)]
    · rw [readNarrow_eq, overruns.mpr starts]
      rfl

/-- All other texts are malformed. -/
theorem readNarrow_eq_malformed_iff :
    readNarrow t cs = .error .malformed ↔ (¬∃ n, Denotes t.isSigned cs n) ∧ ¬Overruns t cs := by
  constructor
  · intro narrow
    refine ⟨fun ⟨n, literal⟩ => ?_, fun starts => ?_⟩
    · rw [readNarrow_literal literal] at narrow
      split at narrow <;> cases narrow
    · rw [readNarrow_eq_outOfRange_iff.mpr (Or.inr starts)] at narrow
      cases narrow
  · rintro ⟨noLiteral, noStart⟩
    cases narrow : readNarrow t cs with
    | ok n => exact absurd ⟨n, (readNarrow_eq_ok_iff.mp narrow).1⟩ noLiteral
    | error fault =>
      cases fault with
      | malformed => rfl
      | outOfRange =>
        rcases readNarrow_eq_outOfRange_iff.mp narrow with ⟨n, literal, -⟩ | starts
        · exact absurd ⟨n, literal⟩ noLiteral
        · exact absurd starts noStart

end IntLiteral

end StoreAccess
