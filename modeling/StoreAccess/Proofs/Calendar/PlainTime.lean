import Mathlib.Data.List.TakeWhile
import StoreAccess.Bind.Binder
import StoreAccess.Proofs.Number.Decimal

/-! Times in the default pattern: year, month and day, then hour, minute and second, all in digits of a fixed
    number. Such a text is read back as the time it was written of, unless something follows it. -/

namespace StoreAccess

open FloatLiteral (isDigit digitsValue)

/-- The time is shown by clocks, on a day of the calendar that has a year of four digits. -/
structure CivilTime.Shown (t : CivilTime) : Prop where
  valid : t.date.isValid = true
  year_nonneg : 0 ≤ t.date.year
  year_le : t.date.year ≤ 9999
  hour_lt : t.hour < 24
  minute_lt : t.minute < 60
  second_lt : t.second < 60

/-- The time has no fraction of a second. A leap second is the whole one after the fifty-ninth. -/
def CivilTime.Whole (t : CivilTime) : Prop :=
  t.nanos = 0 ∨ (t.second = 59 ∧ t.nanos = 1000000000)

namespace CivilTime.Shown

variable {t : CivilTime}

theorem date_bounds (shown : t.Shown) :
    (1 ≤ t.date.month ∧ t.date.month ≤ 12) ∧ 1 ≤ t.date.day ∧ t.date.day ≤ 31 := by
  have valid := shown.valid
  simp only [Date.isValid, Bool.and_eq_true, decide_eq_true_eq] at valid
  obtain ⟨⟨⟨⟨-, monthLow⟩, monthHigh⟩, dayLow⟩, dayHigh⟩ := valid
  have days : Date.daysInMonth t.date.year t.date.month ≤ 31 := by
    unfold Date.daysInMonth
    grind
  exact ⟨⟨monthLow, monthHigh⟩, dayLow, Nat.le_trans dayHigh days⟩

theorem shownSecond_le (shown : t.Shown) (whole : t.Whole) : t.shownSecond ≤ 60 := by
  have := shown.second_lt
  unfold CivilTime.shownSecond
  rcases whole with plain | ⟨last, leap⟩ <;> omega

end CivilTime.Shown

namespace Pattern

/-! ### What is taken off the front of a text -/

theorem take_padded {width n : Nat} (rest : List Char) (wide : 0 < width) (small : n < 10 ^ width) :
    (padded width n ++ rest).take width = padded width n :=
  List.take_left' (length_padded wide small)

theorem drop_padded {width n : Nat} (rest : List Char) (wide : 0 < width) (small : n < 10 ^ width) :
    (padded width n ++ rest).drop width = rest :=
  List.drop_left' (length_padded wide small)

theorem takeWhile_padded {width n : Nat} : (padded width n).takeWhile isDigit = padded width n :=
  List.takeWhile_eq_self_iff.mpr fun _ => isDigit_of_mem_padded

theorem takeDigits?_padded {width n : Nat} (rest : List Char) (wide : 0 < width) (small : n < 10 ^ width) :
    takeDigits? width (padded width n ++ rest) = some (n, rest) := by
  rw [takeDigits?, take_padded _ wide small, drop_padded _ wide small, takeWhile_padded, digitsValue_padded]
  exact if_pos (length_padded wide small)

theorem takeNumber?_padded {width n : Nat} (rest : List Char) (wide : 0 < width) (narrow : width ≤ 18)
    (small : n < 10 ^ width) : takeNumber? (some width) (padded width n ++ rest) = some (n, rest) := by
  have held : n < Nat.pow 2 63 :=
    Nat.lt_of_lt_of_le small (Nat.le_trans (Nat.pow_le_pow_right (by decide) narrow) (by decide))
  simp only [takeNumber?, Option.elim_some, take_padded _ wide small, takeWhile_padded, digitsValue_padded,
    length_padded wide small, drop_padded _ wide small]
  exact if_pos (by simp [padded_ne_nil, held])

theorem takeChar?_self (c : Char) (rest : List Char) : takeChar? c (c :: rest) = some rest :=
  if_pos rfl

/-! ### Reading the default pattern -/

/-- The items of the default pattern. -/
def plainItems : List Item :=
  [.zeros .year, .literal '-', .zeros .month, .literal '-', .zeros .day, .space ' ', .zeros .hour, .literal ':',
   .zeros .minute, .literal ':', .zeros .second]

theorem items_defaultPattern : items defaultPattern.toList = plainItems := by decide

/-- The text of a time by the default pattern. -/
def plain (t : CivilTime) : List Char :=
  padded 4 t.date.year.toNat ++ '-' :: (padded 2 t.date.month ++ '-' :: (padded 2 t.date.day ++ ' ' ::
    (padded 2 t.hour ++ ':' :: (padded 2 t.minute ++ ':' :: padded 2 t.shownSecond))))

theorem readWidth_bounds {q : Quantity} {width : Nat} (read : q.readWidth = some width) :
    0 < width ∧ width ≤ 9 := by
  cases q <;> cases read <;> decide

theorem take?_padded {q : Quantity} {width n : Nat} (rest : List Char) (read : q.readWidth = some width)
    (small : n < 10 ^ width) : q.take? (padded width n ++ rest) = some ((n : Int), rest) := by
  obtain ⟨wide, narrow⟩ := readWidth_bounds read
  have number := takeNumber?_padded rest wide (Nat.le_trans narrow (by decide)) small
  obtain ⟨c, ds, written⟩ := List.exists_cons_of_ne_nil (@padded_ne_nil n width)
  have digit : isDigit c = true := isDigit_of_mem_padded (written ▸ List.mem_cons_self)
  rw [written] at number ⊢
  unfold Quantity.take?
  -- A digit is neither of the signs that a year may begin with.
  split
  · rename_i sign
    cases sign
    cases digit
  · rename_i sign
    cases sign
    cases digit
  · rw [read, number]
    rfl

theorem readQuantity?_padded {q : Quantity} {width n : Nat} (rest : List Char) {known known' : Clues}
    (read : q.readWidth = some width) (small : n < 10 ^ width) (clues : q.clues? n known = some known') :
    readQuantity? q known (padded width n ++ rest) = some (known', rest) := by
  simp only [readQuantity?, trimStart_padded, take?_padded _ read small, Option.bind_eq_bind, Option.bind_some, clues]

end Pattern

namespace Clues

theorem add?_of_unknown {known : Clues} {clue : Clue} {n : Int} (admits : clue.admits n = true)
    (unknown : known.get? clue = none) : known.add? clue n = some ⟨(clue, n) :: known.known⟩ := by
  rw [add?, if_pos admits, unknown]

/-- The clues in the text of a time by the default pattern. -/
def ofPlain (t : CivilTime) : Clues :=
  ⟨[(.second, (t.shownSecond : Int)), (.minute, (t.minute : Int)), (.hourOfHalf, (t.hour : Int) % 12),
    (.half, (t.hour : Int) / 12), (.day, (t.date.day : Int)), (.month, (t.date.month : Int)),
    (.year, (t.date.year.toNat : Int))]⟩

end Clues

namespace Pattern

variable {t : CivilTime}

theorem readAll_cons {ι : Type} {read : ι → Clues → List Char → Option (Clues × List Char)} {item : ι}
    {items : List ι} {known known' : Clues} {cs rest : List Char} (first : read item known cs = some (known', rest)) :
    readAll read (item :: items) known cs = readAll read items known' rest := by
  rw [readAll, first]
  rfl

theorem readAll_literal {items : List Item} {known : Clues} (c : Char) (rest : List Char) :
    readAll Item.read? (.literal c :: items) known (c :: rest) = readAll Item.read? items known rest :=
  readAll_cons (by rw [Item.read?, takeChar?_self]; rfl)

theorem readAll_zeros {items : List Item} {q : Quantity} (width : Nat) {n : Nat} {rest : List Char}
    {known known' : Clues} (read : q.readWidth = some width) (small : n < 10 ^ width)
    (clues : q.clues? n known = some known') :
    readAll Item.read? (.zeros q :: items) known (padded width n ++ rest) = readAll Item.read? items known' rest :=
  readAll_cons (readQuantity?_padded rest read small clues)

theorem readAll_clue {items : List Item} {q : Quantity} (clue : Clue) (width : Nat) {n : Nat} {rest : List Char}
    {known : Clues} (read : q.readWidth = some width) (adds : q.clues? n known = known.add? clue n)
    (small : n < 10 ^ width) (admits : clue.admits n = true) (unknown : known.get? clue = none) :
    readAll Item.read? (.zeros q :: items) known (padded width n ++ rest) =
      readAll Item.read? items ⟨(clue, n) :: known.known⟩ rest :=
  readAll_zeros width read small (adds.trans (Clues.add?_of_unknown admits unknown))

theorem readAll_space {items : List Item} {known : Clues} {width n : Nat} {rest : List Char} :
    readAll Item.read? (.space ' ' :: items) known (' ' :: (padded width n ++ rest)) =
      readAll Item.read? items known (padded width n ++ rest) :=
  readAll_cons (congrArg (fun cs => some (known, cs)) (trimStart_padded rest))

theorem readAll_plain (shown : t.Shown) (whole : t.Whole) (rest : List Char) :
    readAll Item.read? plainItems .empty (plain t ++ rest) = some (.ofPlain t, rest) := by
  obtain ⟨⟨monthLow, monthHigh⟩, dayLow, dayHigh⟩ := shown.date_bounds
  have year : t.date.year.toNat < 10 ^ 4 := by have := shown.year_le; omega
  have hour := shown.hour_lt
  have minute := shown.minute_lt
  have second := shown.shownSecond_le whole
  have large : Int.pow 2 31 = 2147483648 := rfl
  -- Each number is one that its clue admits, and no clue is given twice.
  have admits : Clue.admits .year t.date.year.toNat = true ∧ Clue.admits .month t.date.month = true ∧
      Clue.admits .day t.date.day = true ∧ Clue.admits .half ((t.hour : Int) / 12) = true ∧
      Clue.admits .hourOfHalf ((t.hour : Int) % 12) = true ∧ Clue.admits .minute t.minute = true ∧
      Clue.admits .second t.shownSecond = true := by
    simp only [Clue.admits, Bool.and_eq_true, decide_eq_true_eq, large]
    omega
  obtain ⟨yearAdmits, monthAdmits, dayAdmits, halfAdmits, hourAdmits, minuteAdmits, secondAdmits⟩ := admits
  have addHour (known : Clues) (noHalf : known.get? .half = none) (noHour : known.get? .hourOfHalf = none) :
      Quantity.hour.clues? t.hour known =
        some ⟨(.hourOfHalf, (t.hour : Int) % 12) :: (.half, (t.hour : Int) / 12) :: known.known⟩ := by
    rw [Quantity.clues?, Clues.addHour?, if_pos (by omega), Clues.add?_of_unknown halfAdmits noHalf]
    exact Clues.add?_of_unknown hourAdmits noHour
  simp only [plain, List.append_assoc, List.cons_append, plainItems]
  rw [readAll_clue .year 4 rfl rfl year yearAdmits rfl, readAll_literal,
    readAll_clue .month 2 rfl rfl (by omega) monthAdmits rfl, readAll_literal,
    readAll_clue .day 2 rfl rfl (by omega) dayAdmits rfl, readAll_space,
    readAll_zeros 2 rfl (by omega) (addHour _ rfl rfl), readAll_literal,
    readAll_clue .minute 2 rfl rfl (by omega) minuteAdmits rfl, readAll_literal,
    readAll_clue .second 2 rfl rfl (by omega) secondAdmits rfl]
  rfl

end Pattern

/-! ### The time read -/

namespace Clues

variable {t : CivilTime}

theorem agrees_of_known {known : Clues} {clue : Clue} {n : Int} (there : known.get? clue = some n) :
    known.agrees clue n = true := by
  rw [agrees, there]
  exact decide_eq_true rfl

theorem get?_ofPlain (shown : t.Shown) :
    (ofPlain t).get? .year = some t.date.year ∧ (ofPlain t).get? .month = some (t.date.month : Int) ∧
      (ofPlain t).get? .day = some (t.date.day : Int) :=
  ⟨congrArg some (Int.toNat_of_nonneg shown.year_nonneg), rfl, rfl⟩

theorem candidate_ofPlain (shown : t.Shown) : (ofPlain t).candidate = .ok t.date := by
  obtain ⟨year, month, day⟩ := get?_ofPlain shown
  have year : yearFrom ((ofPlain t).get? .year) ((ofPlain t).get? .century) ((ofPlain t).get? .yearOfCentury) =
      .ok (some t.date.year) := by
    rw [year]
    rfl
  have isoYear : yearFrom ((ofPlain t).get? .isoYear) ((ofPlain t).get? .isoCentury)
      ((ofPlain t).get? .isoYearOfCentury) = .ok none := rfl
  have parts : Date.ofParts? t.date.year t.date.month t.date.day = some t.date := if_pos shown.valid
  unfold candidate
  rw [year, isoYear, month, day]
  show (Date.ofParts? t.date.year t.date.month t.date.day).elim (Except.error Misfit.contradictory) Except.ok = _
  rw [parts]
  rfl

theorem date_ofPlain (shown : t.Shown) : (ofPlain t).date = .ok t.date := by
  obtain ⟨year, month, day⟩ := get?_ofPlain shown
  have parts : fitsCivil.fitsParts (ofPlain t) t.date = true := if_pos shown.year_nonneg
  have isoParts (y : Int) : fitsIsoWeek.fitsParts (ofPlain t) y = true := by
    unfold fitsIsoWeek.fitsParts
    split <;> rfl
  have civil : (ofPlain t).fitsCivil t.date = true := by
    rw [fitsCivil, parts, agrees_of_known year, agrees_of_known month, agrees_of_known day]
    rfl
  have week : (ofPlain t).fitsIsoWeek t.date = true := by
    simp only [fitsIsoWeek, isoParts]
    rfl
  unfold date
  rw [candidate_ofPlain shown]
  exact if_pos (by rw [civil, week]; rfl)

theorem clock_ofPlain (shown : t.Shown) (whole : t.Whole) :
    (ofPlain t).clock = .ok (t.hour, t.minute, t.second, t.nanos) := by
  have hour : ((t.hour : Int) / 12).toNat * 12 + ((t.hour : Int) % 12).toNat = t.hour := by omega
  have last := shown.second_lt
  have read : (ofPlain t).clock = if t.shownSecond = 60 then
      .ok (((t.hour : Int) / 12).toNat * 12 + ((t.hour : Int) % 12).toNat, t.minute, 59, 1000000000)
    else .ok (((t.hour : Int) / 12).toNat * 12 + ((t.hour : Int) % 12).toNat, t.minute, t.shownSecond, 0) := rfl
  rw [read, hour]
  rcases whole with plain | ⟨leap, nanos⟩
  · have second : t.shownSecond = t.second := by rw [CivilTime.shownSecond, plain, Nat.zero_div, Nat.add_zero]
    rw [if_neg (by omega), second, plain]
  · have second : t.shownSecond = 60 := by rw [CivilTime.shownSecond, leap, nanos]
    rw [if_pos second, leap, nanos]

theorem resolve?_ofPlain (shown : t.Shown) (whole : t.Whole) : (ofPlain t).resolve? = some t := by
  rw [resolve?, date_ofPlain shown, clock_ofPlain shown whole]
  rfl

end Clues

namespace Pattern

variable {t : CivilTime}

theorem read?_plain (shown : t.Shown) (whole : t.Whole) : read? defaultPattern.toList (plain t) = some t := by
  have all := readAll_plain shown whole []
  rw [List.append_nil] at all
  rw [read?, items_defaultPattern, all]
  exact Clues.resolve?_ofPlain shown whole

/-- Nothing may follow the second. -/
theorem read?_plain_append (shown : t.Shown) (whole : t.Whole) {rest : List Char} (more : rest ≠ []) :
    read? defaultPattern.toList (plain t ++ rest) = none := by
  obtain ⟨c, cs, rfl⟩ := List.exists_cons_of_ne_nil more
  rw [read?, items_defaultPattern, readAll_plain shown whole]

theorem twoDigits_zero (n : Nat) : twoDigits .zero n = padded 2 n := by
  by_cases single : n < 10
  · have length : (natText n).length = 1 := by rw [natText, Nat.toDigits_of_lt_base single, List.length_singleton]
    rw [twoDigits, if_pos single, padded, length]
    rfl
  · have length : 1 < (natText n).length := by
      by_contra short
      exact single ((Nat.length_toDigits_le_iff (b := 10) (k := 1) (by decide) (by decide)).mp (Nat.not_lt.mp short))
    rw [twoDigits, if_neg single, padded, Nat.sub_eq_zero_of_le length]
    rfl

theorem yearNumber_zero {year : Int} (nonneg : 0 ≤ year) (small : year ≤ 9999) :
    yearNumber .zero year = padded 4 year.toNat := by
  have unsigned : decide (year < 0 ∨ 10000 ≤ year) = false := decide_eq_false (by omega)
  have magnitude : year.natAbs = year.toNat := by omega
  rw [yearNumber, unsigned, wideNumber, if_neg (by omega), magnitude]
  rfl

theorem write?_defaultPattern (shown : t.Shown) (offset : Int) :
    write? defaultPattern.toList t offset = some (plain t) := by
  have year := yearNumber_zero shown.year_nonneg shown.year_le
  simp only [write?, items_defaultPattern, plainItems, Item.zeros, List.mapM_cons, List.mapM_nil, Item.write?,
    Quantity.write, year, twoDigits_zero]
  simp [plain]

end Pattern

end StoreAccess
