import StoreAccess.Proofs.Bind.Conversions
import StoreAccess.Proofs.Bind.Sequences

/-! Binding a row again. What a field makes of a row is its own content or does not depend on it, and of the columns
    of a map the last of a name counts whatever was there. So a second time a row changes nothing and fails as it did,
    and two records of one type end up alike but for the fields that the row leaves alone. -/

namespace StoreAccess

variable {α : Type} {row : Row} {pattern : String} {options : BinderOptions}

/-! ### Targets -/

theorem Binder.bindInto_again {t : RowTarget α}
    (again : ∀ columns row options x, t.bindRow columns row options (t.bindRow columns row options x).1 =
      t.bindRow columns row options x) (options : BinderOptions) (result : Table) (x : α) :
    bindInto t options result (bindInto t options result x).target = bindInto t options result x := by
  cases first : result.rows with
  | nil => simp only [bindInto, first]
  | cons row rows =>
    have target : (bindInto t options result x).target = (t.bindRow result.columns row options x).1 :=
      (bindInto_of_first first x).1
    rw [target]
    simp only [bindInto, first, again]

namespace RowTarget

/-- The columns before the first that is not decoded are put into the map, whatever it holds. -/
theorem bindColumns_contents (row : Row) (options : BinderOptions) (columns : List Column) (d : Dict Value) :
    (bindColumns row options columns d).1 =
      ((columns.takeWhile fun c => (Value.decode c (row.get? c.name) options.pattern).isOk).map fun c =>
        (c.name, c.value row options.pattern)).foldl (fun d p => d.insert p.1 p.2) d := by
  induction columns generalizing d with
  | nil => rfl
  | cons c columns ih =>
    rw [bindColumns, List.takeWhile_cons]
    cases decoded : Value.decode c (row.get? c.name) options.pattern with
    | error fault => rfl
    | ok v =>
      have value : c.value row options.pattern = v := by
        rw [Column.value, decoded]
        rfl
      exact value ▸ ih (d.insert c.name v)

theorem bindColumns_again (row : Row) (options : BinderOptions) (columns : List Column) (d : Dict Value) :
    bindColumns row options columns (bindColumns row options columns d).1 = bindColumns row options columns d := by
  -- Which columns are decoded is a matter of the row, so both times the same pairs are put in.
  refine Prod.ext ?_ ?_
  · rw [bindColumns_contents row options columns (bindColumns row options columns d).1,
      bindColumns_contents row options columns d, Dict.foldl_insert_again]
  · rw [bindColumns_outcome, bindColumns_outcome]

end RowTarget

/-! ### Fields -/

namespace Slot

variable {slot : Slot} {content content' cell : Cell} {f : FieldSpec}

/-- A field is left as it is, or what comes of it does not depend on what it held. -/
theorem bind_keeps_or_const (slot : Slot) (row : Row) (pattern : String) :
    (∀ content, slot.bind row pattern content = .ok content) ∨
      ∃ outcome, ∀ content, slot.bind row pattern content = outcome := by
  unfold bind
  cases handed slot.spec row pattern with
  | error e => exact Or.inr ⟨.error e, fun content => rfl⟩
  | ok v? =>
    cases v? with
    | none => exact Or.inl fun content => rfl
    | some v =>
      cases assigned : slot.assignment with
      | ignore => exact Or.inl fun content => rfl
      | convert s optional field => exact Or.inr ⟨s.convertOptional optional v field, fun content => rfl⟩
      | reject field kind => exact Or.inr ⟨.error (.unsupported field kind), fun content => rfl⟩

theorem bind_again (bound : slot.bind row pattern content = .ok cell) : slot.bind row pattern cell = .ok cell := by
  rcases slot.bind_keeps_or_const row pattern with keeps | ⟨outcome, const⟩
  · exact keeps cell
  · rw [const, ← const content, bound]

/-- The row leaves the field alone: it is skipped, or there is no text for it, and that counts as nothing for a field
    of its kind. -/
def Leaves (f : FieldSpec) (row : Row) : Prop :=
  f.skip = true ∨
    resolve f row = none ∧ (f.kind.isUnsupported = true ∨ f.optional = false ∧ f.kind ≠ .scalar .text)

/-- What a field is given for want of a text, if anything. -/
def vacant? (f : FieldSpec) : Option FieldValue :=
  if f.kind.isUnsupported then none
  else if f.optional then some .null
  else if f.kind = .scalar .text then some (.text "")
  else none

theorem vacant?_eq_none_iff :
    vacant? f = none ↔ f.kind.isUnsupported = true ∨ f.optional = false ∧ f.kind ≠ .scalar .text := by
  unfold vacant?
  split
  · rename_i unsupported
    exact iff_of_true rfl (Or.inl unsupported)
  · rename_i supported
    cases f.optional <;> simp [supported]

theorem handed_of_empty (unskipped : f.skip = false) (empty : resolve f row = none) :
    handed f row pattern =
      if f.notEmpty then .error (.required f.name (row.get? f.column).isNone) else .ok (vacant? f) := by
  rw [handed, unskipped, empty, vacant?, apply_ite Except.ok, apply_ite Except.ok, apply_ite Except.ok]
  rfl

theorem handed_eq_none_iff {v? : Option FieldValue} (given : handed f row pattern = .ok v?) :
    v? = none ↔ Leaves f row := by
  cases skip : f.skip with
  | true =>
    rw [handed_of_skip skip] at given
    cases given
    exact iff_of_true rfl (Or.inl skip)
  | false =>
    cases text : resolve f row with
    | some raw =>
      rw [handed_of_resolve skip text] at given
      obtain ⟨v, -, rfl⟩ := exists_of_map_eq_ok given
      exact iff_of_false (by simp) (by simp [Leaves, skip, text])
    | none =>
      rw [handed_of_empty skip text] at given
      split at given
      · cases given
      · cases given
        rw [vacant?_eq_none_iff, Leaves, skip, text]
        simp

theorem eq_of_bind_of_leaves (leaves : Leaves slot.spec row) (bound : slot.bind row pattern content = .ok cell) :
    cell = content := by
  unfold bind at bound
  cases given : handed slot.spec row pattern with
  | error e =>
    rw [given] at bound
    cases bound
  | ok v? =>
    rw [given, (handed_eq_none_iff given).mpr leaves] at bound
    exact (Except.ok.inj bound).symm

/-- A field that the row does not leave alone gets the same content whatever it held. -/
theorem bind_of_not_leaves (touched : ¬Leaves slot.spec row) (assigned : slot.assignment ≠ .ignore)
    (bound : slot.bind row pattern content = .ok cell) (content' : Cell) :
    slot.bind row pattern content' = .ok cell := by
  rw [← bound]
  unfold bind
  cases given : handed slot.spec row pattern with
  | error e => rfl
  | ok v? =>
    cases v? with
    | none => exact absurd ((handed_eq_none_iff given).mp rfl) touched
    | some v =>
      show slot.assignment.apply content' v = slot.assignment.apply content v
      cases assignment : slot.assignment with
      | ignore => exact absurd assignment assigned
      | convert s optional field => rfl
      | reject field kind => rfl

end Slot

/-! ### Records -/

namespace RecordType

variable {r : RecordType} {slots : List Slot}

theorem bindSlots_again (row : Row) (pattern : String) (slots : List Slot) (cells : List Cell) :
    bindSlots row pattern slots (bindSlots row pattern slots cells).1 = bindSlots row pattern slots cells := by
  induction slots generalizing cells with
  | nil => rfl
  | cons slot slots ih =>
    cases cells with
    | nil => rfl
    | cons cell cells =>
      cases bound : slot.bind row pattern cell with
      | error e => simp only [bindSlots, bound]
      | ok cell' => simp only [bindSlots, bound, Slot.bind_again bound, ih cells]

/-- Whether a record is bound, and why not, is a matter of the row and not of what the record holds. -/
theorem bindSlots_outcome (row : Row) (pattern : String) {cells cells' : List Cell}
    (fits : cells.length = slots.length) (fits' : cells'.length = slots.length) :
    (bindSlots row pattern slots cells).2 = (bindSlots row pattern slots cells').2 := by
  induction slots generalizing cells cells' with
  | nil =>
    obtain rfl := List.length_eq_zero_iff.mp fits
    obtain rfl := List.length_eq_zero_iff.mp fits'
    rfl
  | cons slot slots ih =>
    obtain ⟨cell, cells, rfl⟩ := List.exists_cons_of_length_eq_add_one fits
    obtain ⟨cell', cells', rfl⟩ := List.exists_cons_of_length_eq_add_one fits'
    have others := ih (Nat.succ.inj fits) (Nat.succ.inj fits')
    rcases slot.bind_keeps_or_const row pattern with keeps | ⟨error | bound, const⟩
    · simp only [bindSlots, keeps, others]
    · simp only [bindSlots, const]
    · simp only [bindSlots, const, others]

/-- Each field that is bound is assigned to: what a row gives it, the setter stores or refuses. -/
def Assigns (r : RecordType) : Prop :=
  ∀ slot ∈ r.slots, slot.spec.skip = false → slot.assignment ≠ .ignore

/-- What a row leaves in the fields of two records of one type, by what was in them. -/
structure Forgets (r : RecordType) (row : Row) (content content' after after' : List Cell) : Prop where
  /-- The fields that the row does not leave alone hold the same. -/
  agree : ∀ (index : Nat) (slot : Slot), r.slots[index]? = some slot → ¬Slot.Leaves slot.spec row →
    after[index]? = after'[index]?
  /-- The others hold what they held. -/
  kept : ∀ (index : Nat) (slot : Slot), r.slots[index]? = some slot → Slot.Leaves slot.spec row →
    after[index]? = content[index]? ∧ after'[index]? = content'[index]?

theorem exists_bind_of_ok {cells : List Cell} {index : Nat} {slot : Slot} (fits : cells.length = slots.length)
    (place : slots[index]? = some slot) (done : (bindSlots row pattern slots cells).2 = .ok ()) :
    ∃ cell cell', cells[index]? = some cell ∧ slot.bind row pattern cell = .ok cell' ∧
      (bindSlots row pattern slots cells).1[index]? = some cell' := by
  obtain ⟨cell, held⟩ : ∃ cell, cells[index]? = some cell :=
    ⟨_, List.getElem?_eq_getElem (fits ▸ (List.getElem?_eq_some_iff.mp place).1)⟩
  cases bound : slot.bind row pattern cell with
  | error e =>
    obtain ⟨⟨e', failed⟩, -⟩ := bindSlots_of_error fits place held bound
    rw [done] at failed
    cases failed
  | ok cell' => exact ⟨cell, cell', held, bound, bindSlots_of_ok fits place held bound done⟩

theorem forgets_of_ok (assigns : r.Assigns) {content content' : List Cell} (fits : content.length = r.slots.length)
    (fits' : content'.length = r.slots.length) (done : (r.bindRow row pattern content).2 = .ok ())
    (done' : (r.bindRow row pattern content').2 = .ok ()) :
    r.Forgets row content content' (r.bindRow row pattern content).1 (r.bindRow row pattern content').1 := by
  refine ⟨fun index slot place touched => ?_, fun index slot place leaves => ⟨?_, ?_⟩⟩
  · obtain ⟨cell, bound, held, own, holds⟩ := exists_bind_of_ok fits place done
    obtain ⟨cell', bound', held', own', holds'⟩ := exists_bind_of_ok fits' place done'
    have unskipped : slot.spec.skip = false := Bool.eq_false_iff.mpr fun skip => touched (Or.inl skip)
    have assigned := assigns slot (List.mem_of_getElem? place) unskipped
    cases own'.symm.trans (Slot.bind_of_not_leaves touched assigned own cell')
    exact holds.trans holds'.symm
  · obtain ⟨cell, bound, held, own, holds⟩ := exists_bind_of_ok fits place done
    cases Slot.eq_of_bind_of_leaves leaves own
    exact holds.trans held.symm
  · obtain ⟨cell, bound, held, own, holds⟩ := exists_bind_of_ok fits' place done'
    cases Slot.eq_of_bind_of_leaves leaves own
    exact holds.trans held.symm

end RecordType

/-- In a declared record each field that is bound has an arm of the setter. -/
theorem Declare.Record.assigns {s : Struct} {r : Record} (declared : s.record? = some r) (initial : FieldSpec → Cell) :
    (r.recordType initial).Assigns := by
  intro slot there unskipped
  obtain ⟨index, place⟩ := List.mem_iff_getElem?.mp there
  rw [slots_recordType, Option.map_eq_some_iff] at place
  obtain ⟨d, described, rfl⟩ := place
  have arm := Struct.lookup_arms declared described
  change d.spec.skip = false at unskipped
  rw [unskipped] at arm
  show r.assignment index d.spec ≠ .ignore
  rw [Record.assignment, arm]
  cases d.arm with
  | assign field => cases d.spec.kind <;> simp
  | reject field kind => simp

theorem RowTarget.record_bindRow (r : RecordType) (columns : List Column) (row : Row) (options : BinderOptions)
    (content : List Cell) : (record r).bindRow columns row options content =
      ((r.bindRow row options.pattern content).1, (r.bindRow row options.pattern content).2.mapError .refused) := rfl

namespace Binder

theorem bindInto_map_again (options : BinderOptions) (result : Table) (d : Dict Value) :
    bindInto .map options result (bindInto .map options result d).target = bindInto .map options result d :=
  bindInto_again (fun columns row options d => RowTarget.bindColumns_again row options columns d) options result d

theorem bindInto_record_again (r : RecordType) (options : BinderOptions) (result : Table) (content : List Cell) :
    bindInto (.record r) options result (bindInto (.record r) options result content).target =
      bindInto (.record r) options result content := by
  refine bindInto_again (fun columns row options content => ?_) options result content
  simp only [RowTarget.record_bindRow, RecordType.bindRow, RecordType.bindSlots_again]

/-- A result bound a second time into the same map or record comes to the same outcome and changes nothing, also where
    it fails. Bound into two records of one type it comes to one outcome, and if it is bound, they agree on all fields
    but those that the first row leaves alone, which hold what they held. -/
theorem bound_again_and_alike :
    (∀ (options : BinderOptions) (result : Table) (d : Dict Value),
      bindInto .map options result (bindInto .map options result d).target = bindInto .map options result d) ∧
    (∀ (r : RecordType) (options : BinderOptions) (result : Table) (content : List Cell),
      bindInto (.record r) options result (bindInto (.record r) options result content).target =
        bindInto (.record r) options result content) ∧
    (∀ (s : Declare.Struct) (d : Declare.Record) (initial : FieldSpec → Cell), s.record? = some d →
      (d.recordType initial).Assigns) ∧
    ∀ (r : RecordType), r.Assigns → ∀ (options : BinderOptions) (result : Table) (content content' : List Cell),
      content.length = r.slots.length → content'.length = r.slots.length →
      let bound := bindInto (.record r) options result content
      let bound' := bindInto (.record r) options result content'
      bound.outcome = bound'.outcome ∧ (bound.outcome = .ok () → ∃ row rows, result.rows = row :: rows ∧
        r.Forgets row content content' bound.target bound'.target) := by
  refine ⟨bindInto_map_again, bindInto_record_again,
    fun s d initial declared => Declare.Record.assigns declared initial,
    fun r assigns options result content content' fits fits' => ?_⟩
  intro bound bound'
  cases first : result.rows with
  | nil =>
    have notFound (x : List Cell) : (bindInto (.record r) options result x).outcome = .error .notFound := by
      rw [bindInto, first]
    exact ⟨(notFound content).trans (notFound content').symm, fun done => (by rw [notFound] at done; cases done)⟩
  | cons row rows =>
    have into (x : List Cell) : (bindInto (.record r) options result x).target = (r.bindRow row options.pattern x).1 ∧
        (bindInto (.record r) options result x).outcome =
          ((r.bindRow row options.pattern x).2.mapError .refused).mapError .row := bindInto_of_first first x
    have same : (r.bindRow row options.pattern content).2 = (r.bindRow row options.pattern content').2 :=
      RecordType.bindSlots_outcome row options.pattern fits fits'
    refine ⟨by rw [(into content).2, (into content').2, same], fun done => ⟨row, rows, rfl, ?_⟩⟩
    rw [(into content).2, Except.mapError_eq_ok_iff, Except.mapError_eq_ok_iff] at done
    rw [(into content).1, (into content').1]
    exact RecordType.forgets_of_ok assigns fits fits' done (same ▸ done)

/-- A user without an age: what is known of the age and the session stays as it was, and nothing else does. -/
theorem user_bound_and_alike :
    let row := Row.ofList [("id", some "3"), ("age", some ""), ("active", some "1"), ("score", none)]
    let result : Table := ⟨[], [row]⟩
    let other : List Cell :=
      [.int .u64 1, .text "ann", .int .i32 41, .bool false, .double (.finite false 0 0), .text "keep"]
    let into := bindInto (.record RecordType.user) .default result
    RecordType.user.Assigns ∧
      RecordType.user.Forgets row RecordType.user.initial other (into RecordType.user.initial).target
        (into other).target ∧
      (into other).target = [.int .u64 3, .text "anon", .int .i32 41, .bool true, .absent, .text "keep"] := by
  intro row result other into
  obtain ⟨-, -, -, alike⟩ := bound_again_and_alike
  have assigns : ∀ slot ∈ RecordType.user.slots, slot.spec.skip = false → slot.assignment ≠ .ignore := by decide
  obtain ⟨-, forgets⟩ := alike RecordType.user assigns .default result RecordType.user.initial other rfl rfl
  obtain ⟨_, _, first, forgets⟩ := forgets rfl
  cases first
  exact ⟨assigns, forgets, rfl⟩

end Binder

end StoreAccess
