import StoreAccess.Proofs.Calendar.PlainTime

/-! Times in the internet form, which has an offset behind the time. A text of the default pattern has none and is
    not of this form; what is read of a text of this form is a time that clocks show. -/

namespace StoreAccess

open FloatLiteral (isDigit digitsValue)

namespace Pattern

variable {width n : Nat} {cs rest : List Char}

/-! ### What is taken off the front of a text -/

theorem takeDigits?_lt (taken : takeDigits? width cs = some (n, rest)) : n < 10 ^ width := by
  simp only [takeDigits?] at taken
  split at taken
  · rename_i length
    cases taken
    have bound := @digitsValue_lt ((cs.take width).takeWhile isDigit) fun _ => List.mem_takeWhile_imp
    rwa [length] at bound
  · cases taken

theorem takeFraction?_lt (taken : takeFraction? cs = some (n, rest)) : n < 1000000000 := by
  simp only [takeFraction?] at taken
  split at taken
  · cases taken
  · cases taken
    have digits : ∀ c ∈ (cs.takeWhile isDigit).take 9, isDigit c = true :=
      fun c there => List.mem_takeWhile_imp (List.mem_of_mem_take there)
    have short : ((cs.takeWhile isDigit).take 9).length ≤ 9 := List.length_take_le 9 _
    have bound := digitsValue_lt digits
    generalize ((cs.takeWhile isDigit).take 9) = kept at *
    calc digitsValue kept * Nat.pow 10 (9 - kept.length)
        < 10 ^ kept.length * Nat.pow 10 (9 - kept.length) :=
          Nat.mul_lt_mul_of_pos_right bound (Nat.pow_pos (by decide))
      _ = 10 ^ 9 := by rw [Nat.pow_eq, ← Nat.pow_add, Nat.add_sub_cancel' short]

theorem takeFraction?_digits (digits : ∀ c ∈ cs, isDigit c = true) (nonempty : cs ≠ []) :
    ∃ n, takeFraction? cs = some (n, []) := by
  have all : cs.takeWhile isDigit = cs := List.takeWhile_eq_self_iff.mpr digits
  refine ⟨digitsValue (cs.take 9) * Nat.pow 10 (9 - (cs.take 9).length), ?_⟩
  simp only [takeFraction?, all, List.isEmpty_iff, nonempty, List.drop_length]
  rfl

end Pattern

namespace Internet

open Pattern

variable {t : CivilTime} {cs rest : List Char} {offset : Int}

theorem takeDivider?_blank (rest : List Char) : takeDivider? (' ' :: rest) = some rest := by
  rw [takeDivider?, if_pos (Or.inr (Or.inr rfl))]

theorem takeDate?_padded (shown : t.Shown) (rest : List Char) :
    takeDate? (padded 4 t.date.year.toNat ++ '-' :: (padded 2 t.date.month ++ '-' :: (padded 2 t.date.day ++ rest))) =
      some (t.date, rest) := by
  obtain ⟨⟨-, month⟩, -, day⟩ := shown.date_bounds
  have year : t.date.year.toNat < 10 ^ 4 := by have := shown.year_le; omega
  have parts : Date.ofParts? (t.date.year.toNat : Int) t.date.month t.date.day = some t.date := by
    rw [Int.toNat_of_nonneg shown.year_nonneg]
    exact if_pos shown.valid
  simp only [takeDate?, takeDigits?_padded _ (by decide) year, takeChar?_self,
    takeDigits?_padded _ (by decide) (show t.date.month < 10 ^ 2 by omega),
    takeDigits?_padded _ (by decide) (show t.date.day < 10 ^ 2 by omega), parts, Option.bind_eq_bind, Option.bind_some]

theorem takeClock?_padded (shown : t.Shown) (whole : t.Whole) (rest : List Char) :
    takeClock? (padded 2 t.hour ++ ':' :: (padded 2 t.minute ++ ':' :: (padded 2 t.shownSecond ++ rest))) =
      some ((t.hour, t.minute, t.shownSecond), rest) := by
  have hour := shown.hour_lt
  have minute := shown.minute_lt
  have second := shown.shownSecond_le whole
  simp only [takeClock?, takeDigits?_padded _ (by decide) (show t.hour < 10 ^ 2 by omega), takeChar?_self,
    takeDigits?_padded _ (by decide) (show t.minute < 10 ^ 2 by omega),
    takeDigits?_padded _ (by decide) (show t.shownSecond < 10 ^ 2 by omega), Option.bind_eq_bind, Option.bind_some]

/-- A time in the default pattern, with or without a fraction of a second behind it, has no offset. -/
theorem read?_plain (shown : t.Shown) (whole : t.Whole)
    (noOffset : ∀ n after, takeFraction? rest = some (n, after) → OffsetForm.internet.take? after = none) :
    read? (plain t ++ rest) = none := by
  simp only [read?, plain, List.append_assoc, List.cons_append, takeDate?_padded shown, takeDivider?_blank,
    takeClock?_padded shown whole, Option.bind_eq_bind, Option.bind_some]
  cases fraction : takeFraction? rest with
  | none => rfl
  | some taken => rw [Option.bind_some, noOffset taken.1 taken.2 fraction, Option.bind_none]

theorem takeDate?_valid {date : Date} (taken : takeDate? cs = some (date, rest)) :
    date.isValid = true ∧ 0 ≤ date.year ∧ date.year ≤ 9999 := by
  simp only [takeDate?, Option.bind_eq_bind, Option.bind_eq_some_iff] at taken
  obtain ⟨⟨year, _⟩, digits, _, -, ⟨month, _⟩, -, _, -, ⟨day, _⟩, -, date', parts, same⟩ := taken
  obtain ⟨rfl, -⟩ := Prod.mk.inj (Option.some.inj same)
  obtain ⟨valid, made⟩ := Option.ite_none_right_eq_some.mp parts
  obtain rfl := Option.some.inj made
  exact ⟨valid, Int.natCast_nonneg year, Int.ofNat_le.mpr (Nat.le_of_lt_succ (takeDigits?_lt digits))⟩

/-- A time within a minute's sixty seconds, or in the second after them. -/
theorem civil?_eq_some {date : Date} {hour minute second nanos : Nat} (small : nanos < 1000000000)
    (made : civil? date hour minute second nanos = some t) :
    t.date = date ∧ t.hour < 24 ∧ t.minute < 60 ∧
      (t.second < 60 ∧ t.nanos < 1000000000 ∨ t.second = 59 ∧ 1000000000 ≤ t.nanos ∧ t.nanos < 2000000000) := by
  unfold civil? at made
  split at made
  · rename_i clock
    obtain ⟨hourLt, minuteLt, secondLe⟩ := clock
    split at made
    · cases made
      exact ⟨rfl, hourLt, minuteLt, Or.inr ⟨rfl, Nat.le_add_left _ _, Nat.add_lt_add_right small _⟩⟩
    · cases made
      exact ⟨rfl, hourLt, minuteLt, Or.inl ⟨Nat.lt_of_le_of_ne secondLe ‹_›, small⟩⟩
  · cases made

theorem takeFraction?_small {n : Nat} (taken : takeFraction? cs = some (n, rest)) : n < 1000000000 := by
  unfold takeFraction? at taken
  split at taken
  · exact takeFraction?_lt taken
  · cases taken
    decide

theorem read?_eq_some (read : read? cs = some (t, offset)) :
    t.Shown ∧ (t.shownNanos = 0 → t.Whole) := by
  simp only [read?, Option.bind_eq_bind, Option.bind_eq_some_iff] at read
  obtain ⟨⟨date, _⟩, dateTaken, _, -, ⟨⟨hour, minute, second⟩, _⟩, -, ⟨nanos, _⟩, fraction, ⟨_, _⟩, -, made, clock,
    same⟩ := read
  obtain ⟨rfl, -⟩ := Prod.mk.inj (Option.some.inj (Option.ite_none_right_eq_some.mp same).2)
  obtain ⟨valid, nonneg, small⟩ := takeDate?_valid dateTaken
  obtain ⟨rfl, hourLt, minuteLt, second⟩ := civil?_eq_some (takeFraction?_small fraction) clock
  refine ⟨⟨valid, nonneg, small, hourLt, minuteLt, ?_⟩, fun whole => ?_⟩
  · rcases second with ⟨secondLt, -⟩ | ⟨last, -⟩
    · exact secondLt
    · omega
  · rw [CivilTime.shownNanos] at whole
    rcases second with ⟨-, nanosLt⟩ | ⟨last, atLeast, nanosLt⟩
    · exact Or.inl (by omega)
    · exact Or.inr ⟨last, by omega⟩

end Internet

end StoreAccess
