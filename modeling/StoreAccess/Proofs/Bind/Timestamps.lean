import StoreAccess.Mysql.Datum
import StoreAccess.Proofs.Bind.Records
import StoreAccess.Proofs.Calendar.InternetTime

/-! Timestamps on their way into fields and maps. A date of the server binds back to itself as long as it has no
    fraction of a second, which the default pattern has no place for. A text in the internet form is a moment for a
    record, and for a map the time shown at its own offset, so the two are apart by that offset. -/

namespace StoreAccess

open FloatLiteral (isDigit)

variable {f : FieldSpec} {row : Row} {pattern raw : String} {content : Cell}

namespace Scalar

variable {s : Scalar}

/-- How a field of a type for moments holds one. -/
def momentCell? : Scalar → Option (Moment → Cell)
  | naiveTime => some .naiveTime
  | utcTime => some .utcTime
  | _ => none

theorem convertOptional_of_ne_null {optional : Bool} {v : FieldValue} (target : String) (present : v ≠ .null) :
    s.convertOptional optional v target = s.convert v target := by
  rw [convertOptional, if_neg (by simp [present])]

/-- What is read of a text for a field of a type for moments is converted without loss. -/
theorem read_momentCell? {cell : Moment → Cell} (moments : s.momentCell? = some cell) (target : String)
    (optional : Bool) :
    ((FieldValue.read s target raw pattern).bind fun v => s.convertOptional optional v target) =
      (FieldValue.readMoment? pattern raw).elim (.error (.parse target raw "datetime")) fun m => .ok (cell m) := by
  unfold momentCell? at moments
  split at moments
  · cases moments
    rw [FieldValue.read]
    cases FieldValue.readMoment? pattern raw with
    | none => rfl
    | some m => exact convertOptional_of_ne_null target nofun
  · cases moments
    rw [FieldValue.read]
    cases FieldValue.readMoment? pattern raw with
    | none => rfl
    | some m => exact convertOptional_of_ne_null target nofun
  · cases moments

end Scalar

theorem Pattern.ofList_plain_append_ne (t : CivilTime) (rest : List Char) : String.ofList (plain t ++ rest) ≠ "" := by
  intro empty
  have none := congrArg String.toList empty
  rw [String.toList_ofList, String.toList_empty, plain, List.append_assoc] at none
  exact padded_ne_nil (List.append_eq_nil_iff.mp none).1

theorem FieldValue.readMoment?_plain {t : CivilTime} (shown : t.Shown) (whole : t.Whole) :
    readMoment? defaultPattern (String.ofList (Pattern.plain t)) = some (t.moment 0) := by
  have noStamp : Internet.read? (Pattern.plain t) = none := by
    rw [← List.append_nil (Pattern.plain t)]
    refine Internet.read?_plain shown whole fun n after taken => ?_
    cases taken
    rfl
  rw [readMoment?, String.toList_ofList, noStamp, Pattern.read?_plain shown whole]
  rfl

theorem Slot.bind_moment {s : Scalar} {cell : Moment → Cell} (kind : f.kind = .scalar s)
    (moments : s.momentCell? = some cell) (unskipped : f.skip = false) (given : row.get? f.column = some raw)
    (nonempty : raw ≠ "") :
    (ofSpec f).bind row pattern content = (FieldValue.readMoment? pattern raw).elim
      (.error (.parse f.name raw "datetime")) fun m => .ok (cell m) := by
  rw [ofSpec_bind_of_text kind unskipped given nonempty]
  exact Scalar.read_momentCell? moments f.name f.optional

/-! ### Dates of the server -/

namespace Mysql.Datum

variable {year month day hour minute second micro : Nat}

/-- The time that a date of the server means. -/
def timeOf (year month day hour minute second micro : Nat) : CivilTime :=
  ⟨⟨year, month, day⟩, hour, minute, second, micro * 1000⟩

/-- The parts of a date are those of a time on the calendar, from year 1 to year 9999. -/
structure IsReal (year month day hour minute second micro : Nat) : Prop where
  valid : Date.isValid ⟨year, month, day⟩ = true
  year_pos : 1 ≤ year
  year_le : year ≤ 9999
  hour_lt : hour < 24
  minute_lt : minute < 60
  second_lt : second < 60
  micro_lt : micro < 1000000

theorem IsReal.shown (real : IsReal year month day hour minute second micro) :
    (timeOf year month day hour minute second 0).Shown :=
  ⟨real.valid, Int.natCast_nonneg year, Int.ofNat_le.mpr real.year_le, real.hour_lt, real.minute_lt, real.second_lt⟩

theorem text?_date : (date year month day hour minute second micro).text? =
    some (String.ofList (Pattern.plain (timeOf year month day hour minute second 0) ++ fraction micro)) := by
  simp [text?, dateText, clock, Pattern.plain, timeOf, CivilTime.shownSecond]

/-- No offset comes after a fraction of a second. -/
theorem no_offset_after_fraction (micro n : Nat) (after : List Char)
    (taken : Internet.takeFraction? (fraction micro) = some (n, after)) :
    Pattern.OffsetForm.internet.take? after = none := by
  unfold fraction at taken
  split at taken
  · cases taken
    rfl
  · obtain ⟨m, all⟩ := Pattern.takeFraction?_digits (fun _ => isDigit_of_mem_padded) (@padded_ne_nil micro 6)
    rw [Internet.takeFraction?, all] at taken
    cases taken
    rfl

theorem readMoment?_date (real : IsReal year month day hour minute second micro) :
    FieldValue.readMoment? defaultPattern
        (String.ofList (Pattern.plain (timeOf year month day hour minute second 0) ++ fraction micro)) =
      if micro = 0 then some ((timeOf year month day hour minute second micro).moment 0) else none := by
  have whole : (timeOf year month day hour minute second 0).Whole := Or.inl rfl
  by_cases zero : micro = 0
  · subst zero
    rw [if_pos rfl, fraction, if_pos rfl, List.append_nil]
    exact FieldValue.readMoment?_plain real.shown whole
  · have more : fraction micro ≠ [] := by
      rw [fraction, if_neg zero]
      exact List.cons_ne_nil _ _
    rw [if_neg zero, FieldValue.readMoment?, String.toList_ofList,
      Internet.read?_plain real.shown whole (no_offset_after_fraction micro),
      Pattern.read?_plain_append real.shown whole more]
    rfl

/-- A date of the server without a fraction of a second binds to the moment it means. One with a fraction is written
    with it and is not read by the default pattern. -/
theorem bind_date {raw : String} (real : IsReal year month day hour minute second micro)
    (text : (date year month day hour minute second micro).text? = some raw) (unskipped : f.skip = false)
    (given : row.get? f.column = some raw) :
    (f.kind = .scalar .naiveTime → (Slot.ofSpec f).bind row defaultPattern content =
      if micro = 0 then .ok (.naiveTime ((timeOf year month day hour minute second micro).moment 0))
      else .error (.parse f.name raw "datetime")) ∧
    (f.kind = .scalar .utcTime → (Slot.ofSpec f).bind row defaultPattern content =
      if micro = 0 then .ok (.utcTime ((timeOf year month day hour minute second micro).moment 0))
      else .error (.parse f.name raw "datetime")) := by
  obtain rfl := Option.some.inj (text?_date.symm.trans text)
  have read := readMoment?_date real
  have nonempty := Pattern.ofList_plain_append_ne (timeOf year month day hour minute second 0) (fraction micro)
  refine ⟨fun kind => ?_, fun kind => ?_⟩
  · rw [Slot.bind_moment kind rfl unskipped given nonempty, read]
    split <;> rfl
  · rw [Slot.bind_moment kind rfl unskipped given nonempty, read]
    split <;> rfl

/-- A second to which a fraction is written, and the same second without one. -/
theorem bind_date_whole :
    let f := FieldSpec.ofName "t" (.scalar .naiveTime)
    let row := Row.ofList [("t", some "2024-01-02 03:04:05")]
    IsReal 2024 1 2 3 4 5 0 ∧ (date 2024 1 2 3 4 5 0).text? = some "2024-01-02 03:04:05" ∧
      (Slot.ofSpec f).bind row defaultPattern .absent = .ok (.naiveTime ⟨1704164645, 0⟩) := by
  intro f row
  have real : IsReal 2024 1 2 3 4 5 0 := by constructor <;> decide
  have text : (date 2024 1 2 3 4 5 0).text? = some "2024-01-02 03:04:05" := rfl
  exact ⟨real, text, (@bind_date f row .absent _ _ _ _ _ _ _ _ real text rfl rfl).1 rfl⟩

/-- The date that means six microseconds past a second is written with them and refused. -/
theorem date_with_fraction_refused :
    let f := FieldSpec.ofName "t" (.scalar .naiveTime)
    let raw := "2024-01-02 03:04:05.000006"
    (date 2024 1 2 3 4 5 6).text? = some raw ∧ (timeOf 2024 1 2 3 4 5 6).moment 0 = ⟨1704164645, 6000⟩ ∧
      (Slot.ofSpec f).bind (Row.ofList [("t", some raw)]) defaultPattern .absent =
        .error (.parse "t" raw "datetime") :=
  ⟨rfl, rfl, rfl⟩

end Mysql.Datum

/-! ### Maps and records -/

section Stamps

variable {t : CivilTime} {offset : Int} {column : Column}

theorem Value.decode_stamp (stamp : Internet.read? raw.toList = some (t, offset))
    (datetime : column.family = .datetime) :
    Value.decode column (some raw) defaultPattern = .ok (.text (String.ofList (Pattern.plain t))) := by
  obtain ⟨shown, -⟩ := Internet.read?_eq_some stamp
  have text : Value.normalizeTime? raw defaultPattern = some (String.ofList (Pattern.plain t)) := by
    simp only [Value.normalizeTime?, stamp, Pattern.write?_defaultPattern shown offset, Option.map_some]
  simp only [Value.decode, datetime, text]
  rfl

/-- A map holds a timestamp as it is shown at its own offset, a record as the moment it is. Read again, the map's
    is as many seconds ahead as the offset says: they are one moment at universal time only. -/
theorem Value.stamp_ahead_by_offset (stamp : Internet.read? raw.toList = some (t, offset)) (whole : t.shownNanos = 0)
    (datetime : column.family = .datetime) (kind : f.kind = .scalar .naiveTime) (unskipped : f.skip = false)
    (same : f.column = column.name) (given : row.get? column.name = some raw) (d : Dict Value) :
    ∃ s shown direct, RowTarget.map.bindRow [column] row .default d = (d.insert column.name (.text s), .ok ()) ∧
      FieldValue.readMoment? defaultPattern s = some shown ∧
      (Slot.ofSpec f).bind row defaultPattern content = .ok (.naiveTime direct) ∧
      shown = ⟨direct.seconds + offset, direct.nanos⟩ ∧ (shown = direct ↔ offset = 0) := by
  obtain ⟨clock, ofWhole⟩ := Internet.read?_eq_some stamp
  have nonempty : raw ≠ "" := by
    rintro rfl
    cases stamp
  have direct : FieldValue.readMoment? defaultPattern raw = some (t.moment offset) := by
    rw [FieldValue.readMoment?, stamp]
  refine ⟨String.ofList (Pattern.plain t), t.moment 0, t.moment offset, ?_, ?_, ?_, ?_, ?_⟩
  · have decoded : Value.decode column (row.get? column.name) BinderOptions.default.pattern = _ :=
      given ▸ Value.decode_stamp stamp datetime
    show RowTarget.bindColumns row .default [column] d = _
    rw [RowTarget.bindColumns, decoded]
    rfl
  · exact FieldValue.readMoment?_plain clock (ofWhole whole)
  · rw [Slot.bind_moment kind rfl unskipped (same ▸ given) nonempty, direct]
    rfl
  · simp only [CivilTime.moment, Int.sub_zero, Int.sub_add_cancel]
  · rw [CivilTime.moment, CivilTime.moment, Moment.mk.injEq]
    omega

/-- Universal time: the map's text is the moment of the record. -/
theorem stamp_at_universal_time :
    let f := FieldSpec.ofName "when" (.scalar .naiveTime)
    let row := Row.ofList [("when", some "2024-03-01T10:20:30Z")]
    ∃ s shown direct, RowTarget.map.bindRow [⟨"when", "DATETIME"⟩] row .default .empty =
        (Dict.empty.insert "when" (.text s), .ok ()) ∧
      FieldValue.readMoment? defaultPattern s = some shown ∧
      (Slot.ofSpec f).bind row defaultPattern .absent = .ok (.naiveTime direct) ∧ shown = direct := by
  intro f row
  have stamp : Internet.read? "2024-03-01T10:20:30Z".toList = some (⟨⟨2024, 3, 1⟩, 10, 20, 30, 0⟩, 0) := by
    decide
  obtain ⟨s, shown, direct, inMap, again, inRecord, -, sameIff⟩ :=
    @Value.stamp_ahead_by_offset f row _ .absent _ _ ⟨"when", "DATETIME"⟩ stamp rfl (by decide) rfl rfl rfl rfl
      .empty
  exact ⟨s, shown, direct, inMap, again, inRecord, sameIff.mpr rfl⟩

/-- Two hours ahead: the map's text, read again, is two hours after the moment of the record. -/
theorem stamp_two_hours_ahead :
    let row := Row.ofList [("when", some "2024-03-01T10:20:30+02:00")]
    RowTarget.map.bindRow [⟨"when", "DATETIME"⟩] row .default .empty =
        (Dict.empty.insert "when" (.text "2024-03-01 10:20:30"), .ok ()) ∧
      FieldValue.readMoment? defaultPattern "2024-03-01 10:20:30" = some ⟨1709288430, 0⟩ ∧
      (Slot.ofSpec (.ofName "when" (.scalar .naiveTime))).bind row defaultPattern .absent =
        .ok (.naiveTime ⟨1709281230, 0⟩) := by
  intro row
  have direct : FieldValue.readMoment? defaultPattern "2024-03-01T10:20:30+02:00" = some ⟨1709281230, 0⟩ := by
    decide
  have given : row.get? "when" = some "2024-03-01T10:20:30+02:00" := rfl
  refine ⟨rfl, by decide, ?_⟩
  rw [Slot.bind_moment rfl rfl rfl given (by decide), direct]
  rfl

end Stamps

end StoreAccess
