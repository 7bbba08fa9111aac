import StoreAccess.Declare.Record
import StoreAccess.Proofs.Bind.Columns

/-! When binding gives no answer. A pattern that cannot be written by has no text for any time, and there is no error
    to say so: a map whose column is to be rewritten by it aborts. Records only read by patterns, and never do. -/

namespace StoreAccess

/-! ### Patterns -/

namespace Pattern

variable {t : CivilTime} {offset : Int}

/-- The pattern asks for a specifier that does not exist, or for the loose offset, which has no written form. -/
def Unwritable (pattern : String) : Prop :=
  ∃ item ∈ items pattern.toList, item = .broken ∨ item = .looseOffset

theorem Item.write?_eq_none_iff {item : Item} :
    item.write? t offset = none ↔ item = .broken ∨ item = .looseOffset := by
  cases item with
  | fraction digits => cases digits <;> simp [write?]
  | _ => simp [write?]

/-- Whether there is a text does not depend on the time. -/
theorem write?_eq_none_iff {pattern : String} :
    write? pattern.toList t offset = none ↔ Unwritable pattern := by
  rw [write?, Option.map_eq_none_iff, mapM_eq_none_iff]
  simp only [Item.write?_eq_none_iff, Unwritable]

end Pattern

/-! ### Columns and rows -/

/-- A text in the internet form of times. -/
def Internet.IsStamp (raw : String) : Prop :=
  (read? raw.toList).isSome = true

variable {options : BinderOptions} {columns : List Column} {column : Column} {row : Row} {pattern : String}

theorem BindError.mapError_refused_ne {α : Type} (x : Except BindError α) :
    x.mapError BindFault.refused ≠ .error .brokenPattern := by
  intro broken
  cases x <;> cases broken

theorem Value.normalizeTime?_eq_none_iff {raw : String} :
    normalizeTime? raw pattern = none ↔ Internet.IsStamp raw ∧ Pattern.Unwritable pattern := by
  rw [normalizeTime?, Internet.IsStamp]
  cases Internet.read? raw.toList with
  | none => simp
  | some stamp =>
    rw [Option.map_eq_none_iff, Pattern.write?_eq_none_iff]
    exact (and_iff_right rfl).symm

theorem Value.decode_eq_brokenPattern_iff {text : Option String} :
    decode column text pattern = .error .brokenPattern ↔
      column.family = .datetime ∧ (∃ raw, text = some raw ∧ Internet.IsStamp raw) ∧ Pattern.Unwritable pattern := by
  cases text with
  | none => simp [decode]
  | some raw =>
    simp only [Option.some.injEq, exists_eq_left']
    rw [← normalizeTime?_eq_none_iff]
    unfold decode
    cases column.family with
    | integer =>
      refine iff_of_false ?_ (by simp)
      dsimp only
      split
      · simp
      · exact BindError.mapError_refused_ne _
    | float =>
      refine iff_of_false ?_ (by simp)
      dsimp only
      split
      · simp
      · exact BindError.mapError_refused_ne _
    | datetime =>
      dsimp only
      cases normalizeTime? raw pattern <;> simp
    | boolean => simp
    | text => simp

/-- Under a column for times the row has one in the internet form, and all columns before it are decoded. -/
def Row.ReachesStamp (row : Row) (columns : List Column) (pattern : String) : Prop :=
  ∃ before c after raw, columns = before ++ c :: after ∧ (∀ b ∈ before, b.Decodes row pattern) ∧
    c.family = .datetime ∧ row.get? c.name = some raw ∧ Internet.IsStamp raw

theorem RowTarget.map_aborts_iff {d : Dict Value} :
    (map.bindRow columns row options d).2 = .error .brokenPattern ↔
      Pattern.Unwritable options.pattern ∧ row.ReachesStamp columns options.pattern := by
  rw [show map.bindRow columns row options d = bindColumns row options columns d from rfl, bindColumns_eq_error_iff]
  simp only [Value.decode_eq_brokenPattern_iff]
  constructor
  · rintro ⟨before, c, after, split, decoded, datetime, ⟨raw, given, stamp⟩, unwritable⟩
    exact ⟨unwritable, before, c, after, raw, split, decoded, datetime, given, stamp⟩
  · rintro ⟨unwritable, before, c, after, raw, split, decoded, datetime, given, stamp⟩
    exact ⟨before, c, after, split, decoded, datetime, ⟨raw, given, stamp⟩, unwritable⟩

theorem RowTarget.record_never_aborts (r : RecordType) (content : List Cell) :
    ((record r).bindRow columns row options content).2 ≠ .error .brokenPattern :=
  BindError.mapError_refused_ne (r.bindRow row options.pattern content).2

/-- Under a column for times the first row has one in the internet form, and no column before it fails. -/
def Table.StartsAtStamp (result : Table) (pattern : String) : Prop :=
  ∃ row rows, result.rows = row :: rows ∧ row.ReachesStamp result.columns pattern

/-- Some row does, and no row before it fails. -/
def Table.ComesToStamp (result : Table) (pattern : String) : Prop :=
  ∃ before row after, result.rows = before ++ row :: after ∧
    (∀ b ∈ before, ∀ c ∈ result.columns, c.Decodes b pattern) ∧ row.ReachesStamp result.columns pattern

/-! ### Results -/

/-- Binding comes to an end that its caller is told of: success, no row, or an error of a column or field. -/
def Binding.Returns {α : Type} (b : Binding α) : Prop :=
  b.outcome = .ok () ∨ b.outcome = .error .notFound ∨ ∃ e, b.outcome = .error (.row (.refused e))

theorem Binding.returns_iff {α : Type} {b : Binding α} : b.Returns ↔ b.outcome ≠ .error (.row .brokenPattern) := by
  unfold Returns
  cases b.outcome with
  | ok done => simp
  | error fault =>
    cases fault with
    | notFound => simp
    | row fault => cases fault <;> simp

namespace Binder

variable {α : Type} {t : RowTarget α} {result : Table}

theorem bindInto_returns_iff {target : α} :
    (bindInto t options result target).Returns ↔
      ¬∃ row rows, result.rows = row :: rows ∧
        (t.bindRow result.columns row options target).2 = .error .brokenPattern := by
  refine Binding.returns_iff.trans (not_congr ?_)
  unfold bindInto
  cases result.rows with
  | nil => simp
  | cons row rows =>
    simp only [List.cons.injEq, exists_and_left, exists_eq_left', and_assoc]
    rcases t.bindRow result.columns row options target with ⟨x, done | fault⟩
    · simp
    · simp

theorem bindAll_returns_iff {s : Sequence α} :
    (bindAll t options result s).Returns ↔
      ¬∃ before row after, result.rows = before ++ row :: after ∧
        (∀ b ∈ before, (t.bindRow result.columns b options t.initial).2 = .ok ()) ∧
        (t.bindRow result.columns row options t.initial).2 = .error .brokenPattern := by
  refine Binding.returns_iff.trans (not_congr ?_)
  rw [← appendRows_eq_error_iff (s := s)]
  unfold bindAll
  rcases appendRows t options result.columns result.rows s with ⟨s', done | fault⟩ <;> simp

theorem bindInto_map_returns_iff (d : Dict Value) :
    (bindInto .map options result d).Returns ↔
      ¬(Pattern.Unwritable options.pattern ∧ result.StartsAtStamp options.pattern) := by
  rw [bindInto_returns_iff]
  refine not_congr ?_
  simp only [RowTarget.map_aborts_iff, Table.StartsAtStamp]
  constructor
  · rintro ⟨row, rows, first, unwritable, reaches⟩
    exact ⟨unwritable, row, rows, first, reaches⟩
  · rintro ⟨unwritable, row, rows, first, reaches⟩
    exact ⟨row, rows, first, unwritable, reaches⟩

theorem bindAll_map_returns_iff (s : Sequence (Dict Value)) :
    (bindAll .map options result s).Returns ↔
      ¬(Pattern.Unwritable options.pattern ∧ result.ComesToStamp options.pattern) := by
  have binds (b : Row) : (RowTarget.map.bindRow result.columns b options RowTarget.map.initial).2 = .ok () ↔
      ∀ c ∈ result.columns, c.Decodes b options.pattern := RowTarget.bindColumns_eq_ok_iff
  rw [bindAll_returns_iff]
  refine not_congr ?_
  simp only [RowTarget.map_aborts_iff, binds, Table.ComesToStamp]
  constructor
  · rintro ⟨before, row, after, split, bound, unwritable, reaches⟩
    exact ⟨unwritable, before, row, after, split, bound, reaches⟩
  · rintro ⟨unwritable, before, row, after, split, bound, reaches⟩
    exact ⟨before, row, after, split, bound, unwritable, reaches⟩

/-- Binding to records returns, whatever the pattern, and so it does to sequences of them. Binding to maps returns
    unless it comes to a time in the internet form under a column for times, and the pattern cannot be written by. -/
theorem returns_unless_stamp_unwritable (options : BinderOptions) (result : Table) :
    (∀ (r : RecordType) (content : List Cell) (s : Sequence (List Cell)),
      (bindOne (.record r) options result).Returns ∧ (bindInto (.record r) options result content).Returns ∧
        (bindAll (.record r) options result s).Returns ∧ (collect (.record r) options result).Returns) ∧
    ∀ (d : Dict Value) (s : Sequence (Dict Value)),
      let first := Pattern.Unwritable options.pattern ∧ result.StartsAtStamp options.pattern
      let any := Pattern.Unwritable options.pattern ∧ result.ComesToStamp options.pattern
      ((bindOne .map options result).Returns ↔ ¬first) ∧ ((bindInto .map options result d).Returns ↔ ¬first) ∧
        ((bindAll .map options result s).Returns ↔ ¬any) ∧ ((collect .map options result).Returns ↔ ¬any) := by
  have into (r : RecordType) (content : List Cell) : (bindInto (.record r) options result content).Returns :=
    bindInto_returns_iff.mpr fun ⟨_, _, _, aborts⟩ => RowTarget.record_never_aborts r content aborts
  have all (r : RecordType) (s : Sequence (List Cell)) : (bindAll (.record r) options result s).Returns :=
    bindAll_returns_iff.mpr fun ⟨_, _, _, _, _, aborts⟩ => RowTarget.record_never_aborts r _ aborts
  refine ⟨fun r content s => ⟨into r _, into r content, all r s, all r _⟩, fun d s => ?_⟩
  exact ⟨bindInto_map_returns_iff _, bindInto_map_returns_iff d, bindAll_map_returns_iff s, bindAll_map_returns_iff _⟩

/-- A percent sign without a specifier: the map has no text for the time, and the record reads it without the
    pattern. -/
theorem stamp_by_lone_percent_aborts :
    let options := BinderOptions.default.withPattern "%"
    let result : Table := ⟨[⟨"t", "DATETIME"⟩], [Row.ofList [("t", some "2024-03-01T10:20:30Z")]]⟩
    ¬(bindOne .map options result).Returns ∧
      (bindOne (.record ⟨"Log", [Slot.ofSpec (.ofName "t" (.scalar .naiveTime))]⟩) options result).target =
        [.naiveTime ⟨1709288430, 0⟩] := by
  intro options result
  have unwritable : Pattern.Unwritable "%" := ⟨.broken, by decide, Or.inl rfl⟩
  have reaches : (Row.ofList [("t", some "2024-03-01T10:20:30Z")]).ReachesStamp result.columns "%" :=
    ⟨[], _, [], _, rfl, fun b there => (by cases there), by decide, rfl, show Option.isSome _ = true by decide⟩
  exact ⟨fun returns => (bindInto_map_returns_iff _).mp returns ⟨unwritable, _, _, rfl, reaches⟩, by decide +kernel⟩

end Binder

end StoreAccess
