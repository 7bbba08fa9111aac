import StoreAccess.Bind.Binder
import StoreAccess.Declare.Record

/-! Binding a record stops at the first field that fails. Up to there each field ends up as if it alone had been
    bound, and from there on nothing is touched. -/

namespace StoreAccess

variable {row row' : Row} {pattern : String}

namespace Slot

variable {slot : Slot} {content : Cell}

theorem handed_of_skip {f : FieldSpec} (skip : f.skip = true) : handed f row pattern = .ok none :=
  if_pos skip

theorem handed_of_resolve {f : FieldSpec} {raw : String} (unskipped : f.skip = false)
    (resolved : resolve f row = some raw) : handed f row pattern = (FieldValue.coerce f raw pattern).map some := by
  rw [handed, unskipped, resolved]
  rfl

theorem resolve_of_text {f : FieldSpec} {raw : String} (given : row.get? f.column = some raw) (nonempty : raw ≠ "") :
    resolve f row = some raw := by
  simp [resolve, given, nonempty]

theorem handed_of_text {f : FieldSpec} {raw : String} (unskipped : f.skip = false)
    (given : row.get? f.column = some raw) (nonempty : raw ≠ "") :
    handed f row pattern = (FieldValue.coerce f raw pattern).map some :=
  handed_of_resolve unskipped (resolve_of_text given nonempty)

/-- A text is read by the type of the field, and what was read is converted to this type. -/
theorem bind_of_resolve {s : Scalar} {raw field : String} (kind : slot.spec.kind = .scalar s)
    (unskipped : slot.spec.skip = false) (converts : slot.assignment = .convert s slot.spec.optional field)
    (resolved : resolve slot.spec row = some raw) :
    slot.bind row pattern content =
      (FieldValue.read s slot.spec.name raw pattern).bind fun v => s.convertOptional slot.spec.optional v field := by
  have coerced : FieldValue.coerce slot.spec raw pattern = FieldValue.read s slot.spec.name raw pattern := by
    rw [FieldValue.coerce, kind]
  rw [bind, handed_of_resolve unskipped resolved, coerced, converts]
  cases FieldValue.read s slot.spec.name raw pattern <;> rfl

theorem bind_of_text {s : Scalar} {raw field : String} (kind : slot.spec.kind = .scalar s)
    (unskipped : slot.spec.skip = false) (converts : slot.assignment = .convert s slot.spec.optional field)
    (given : row.get? slot.spec.column = some raw) (nonempty : raw ≠ "") :
    slot.bind row pattern content =
      (FieldValue.read s slot.spec.name raw pattern).bind fun v => s.convertOptional slot.spec.optional v field :=
  bind_of_resolve kind unskipped converts (resolve_of_text given nonempty)

theorem ofSpec_assignment {f : FieldSpec} {s : Scalar} (kind : f.kind = .scalar s) (unskipped : f.skip = false) :
    (ofSpec f).assignment = .convert s f.optional f.name := by
  simp [ofSpec, unskipped, kind]

theorem ofSpec_bind_of_text {f : FieldSpec} {s : Scalar} {raw : String} (kind : f.kind = .scalar s)
    (unskipped : f.skip = false) (given : row.get? f.column = some raw) (nonempty : raw ≠ "") :
    (ofSpec f).bind row pattern content =
      (FieldValue.read s f.name raw pattern).bind fun v => s.convertOptional f.optional v f.name :=
  bind_of_text kind unskipped (ofSpec_assignment kind unskipped) given nonempty

/-- Of the row only the text under the field's own column counts. -/
theorem handed_congr {f : FieldSpec} (same : f.skip = false → row.get? f.column = row'.get? f.column) :
    handed f row pattern = handed f row' pattern := by
  by_cases skip : f.skip = true
  · rw [handed_of_skip skip, handed_of_skip skip]
  · have text := same (Bool.not_eq_true _ ▸ skip)
    simp only [handed, resolve, text]

theorem bind_of_skip (skip : slot.spec.skip = true) : slot.bind row pattern content = .ok content := by
  rw [bind, handed_of_skip skip]
  rfl

theorem bind_congr (same : slot.spec.skip = false → row.get? slot.spec.column = row'.get? slot.spec.column) :
    slot.bind row pattern content = slot.bind row' pattern content := by
  rw [bind, bind, handed_congr same]

end Slot

namespace RecordType

variable {r : RecordType} {content after : List Cell} {e : BindError}

/-- Binds one field and no other: what the row gives it goes through the setter of the record. -/
def bindField (r : RecordType) (row : Row) (pattern : String) (content : List Cell) (index : Nat) :
    Except BindError (List Cell) := do
  match r.slots[index]? with
  | none => .ok content
  | some slot =>
    match ← Slot.handed slot.spec row pattern with
    | some v => r.assign content index v
    | none => .ok content

/-- The field at the index is there and is not skipped. -/
def Binds (r : RecordType) (index : Nat) : Prop :=
  ∃ slot, r.slots[index]? = some slot ∧ slot.spec.skip = false

/-- The field at the index holds what binding it alone gives it, and what it held if it is not bound. -/
structure HoldsOwn (r : RecordType) (row : Row) (pattern : String) (content after : List Cell) (index : Nat) :
    Prop where
  bound : r.Binds index →
    ∃ alone, r.bindField row pattern content index = .ok alone ∧ after[index]? = alone[index]?
  kept : ¬r.Binds index → after[index]? = content[index]?

/-- What binding a record comes to, by what binding each field alone comes to. -/
structure FailFast (r : RecordType) (row : Row) (pattern : String) (content after : List Cell)
    (outcome : Except BindFault Unit) : Prop where
  fails_iff : (∃ fault, outcome = .error fault) ↔
    ∃ index, r.Binds index ∧ ∃ e, r.bindField row pattern content index = .error e
  /-- The error is that of the first field that fails alone; nothing is touched from there on. -/
  failed : ∀ fault, outcome = .error fault → ∃ index e, fault = .refused e ∧ r.Binds index ∧
    r.bindField row pattern content index = .error e ∧ (∀ j < index, r.HoldsOwn row pattern content after j) ∧
    ∀ j, index ≤ j → after[j]? = content[j]?
  succeeded : outcome = .ok () → ∀ index, r.HoldsOwn row pattern content after index

/-! ### One field -/

theorem bindField_eq {index : Nat} {slot : Slot} {cell : Cell} (place : r.slots[index]? = some slot)
    (held : content[index]? = some cell) :
    r.bindField row pattern content index = (slot.bind row pattern cell).map (content.set index) := by
  have unset : content.set index cell = content := by
    obtain ⟨there, rfl⟩ := List.getElem?_eq_some_iff.mp held
    exact List.set_getElem_self there
  simp only [bindField, Slot.bind, place]
  cases Slot.handed slot.spec row pattern with
  | error e => rfl
  | ok v =>
    cases v with
    | none => exact congrArg Except.ok unset.symm
    | some v =>
      show r.assign content index v = (slot.assignment.apply cell v).map (content.set index)
      rw [assign, place, held]

theorem HoldsOwn.of_bind {index : Nat} {slot : Slot} {cell cell' : Cell} (place : r.slots[index]? = some slot)
    (held : content[index]? = some cell) (bound : slot.bind row pattern cell = .ok cell')
    (holds : after[index]? = some cell') : r.HoldsOwn row pattern content after index := by
  refine ⟨fun _ => ⟨content.set index cell', ?_, ?_⟩, fun unbound => ?_⟩
  · rw [bindField_eq place held, bound]
    rfl
  · rw [holds, List.getElem?_set_self (List.getElem?_eq_some_iff.mp held).1]
  · cases skip : slot.spec.skip with
    | false => exact absurd ⟨slot, place, skip⟩ unbound
    | true =>
      rw [Slot.bind_of_skip skip] at bound
      rw [holds, held, Except.ok.inj bound]

theorem bindField_error_of_bind {index : Nat} {slot : Slot} {cell : Cell} (place : r.slots[index]? = some slot)
    (held : content[index]? = some cell) (fails : slot.bind row pattern cell = .error e) :
    r.Binds index ∧ r.bindField row pattern content index = .error e := by
  refine ⟨⟨slot, place, ?_⟩, ?_⟩
  · cases skip : slot.spec.skip with
    | false => rfl
    | true =>
      rw [Slot.bind_of_skip skip] at fails
      cases fails
  · rw [bindField_eq place held, fails]
    rfl

/-! ### All fields -/

/-- Binding goes on up to some field: all before it are bound, and either it fails or there is none left. -/
theorem bindSlots_stops (row : Row) (pattern : String) {slots : List Slot} {cells : List Cell}
    (fits : cells.length = slots.length) :
    ∃ n, (∀ j < n, ∃ slot cell cell', slots[j]? = some slot ∧ cells[j]? = some cell ∧
        slot.bind row pattern cell = .ok cell' ∧ (bindSlots row pattern slots cells).1[j]? = some cell') ∧
      (∀ j, n ≤ j → (bindSlots row pattern slots cells).1[j]? = cells[j]?) ∧
      ((n = slots.length ∧ (bindSlots row pattern slots cells).2 = .ok ()) ∨
        ∃ slot cell e, slots[n]? = some slot ∧ cells[n]? = some cell ∧ slot.bind row pattern cell = .error e ∧
          (bindSlots row pattern slots cells).2 = .error e) := by
  induction slots generalizing cells with
  | nil =>
    obtain rfl := List.length_eq_zero_iff.mp fits
    exact ⟨0, fun j before => absurd before (Nat.not_lt_zero j), fun j _ => rfl, Or.inl ⟨rfl, rfl⟩⟩
  | cons slot slots ih =>
    obtain ⟨cell, cells, rfl⟩ := List.exists_cons_of_length_eq_add_one fits
    cases bound : slot.bind row pattern cell with
    | error e =>
      have stops : bindSlots row pattern (slot :: slots) (cell :: cells) = (cell :: cells, .error e) := by
        rw [bindSlots, bound]
      rw [stops]
      exact ⟨0, fun j before => absurd before (Nat.not_lt_zero j), fun j _ => rfl,
        Or.inr ⟨slot, cell, e, rfl, rfl, bound, rfl⟩⟩
    | ok cell' =>
      -- What the fields after this one stop at, one place further on.
      obtain ⟨n, before, kept, outcome⟩ := ih (Nat.succ.inj fits)
      have goesOn : bindSlots row pattern (slot :: slots) (cell :: cells) =
          (cell' :: (bindSlots row pattern slots cells).1, (bindSlots row pattern slots cells).2) := by
        rw [bindSlots, bound]
      rw [goesOn]
      refine ⟨n + 1, fun j below => ?_, fun j above => ?_, ?_⟩
      · cases j with
        | zero => exact ⟨slot, cell, cell', rfl, rfl, bound, rfl⟩
        | succ j => exact before j (Nat.lt_of_succ_lt_succ below)
      · cases j with
        | zero => exact absurd above (Nat.not_succ_le_zero n)
        | succ j => exact kept j (Nat.le_of_succ_le_succ above)
      · rcases outcome with ⟨all, done⟩ | failing
        · exact Or.inl ⟨congrArg Nat.succ all, done⟩
        · exact Or.inr failing

section
variable {slots : List Slot} {cells : List Cell} {index : Nat} {slot : Slot} {cell cell' : Cell}

/-- Once all fields are bound, each holds what binding it came to. -/
theorem bindSlots_of_ok (fits : cells.length = slots.length) (place : slots[index]? = some slot)
    (held : cells[index]? = some cell) (bound : slot.bind row pattern cell = .ok cell')
    (done : (bindSlots row pattern slots cells).2 = .ok ()) :
    (bindSlots row pattern slots cells).1[index]? = some cell' := by
  obtain ⟨n, before, -, ⟨all, -⟩ | ⟨_, _, _, -, -, -, failed⟩⟩ := bindSlots_stops row pattern fits
  · obtain ⟨slot₀, cell₀, cell₁, place₀, held₀, bound₀, holds⟩ :=
      before index (all ▸ (List.getElem?_eq_some_iff.mp place).1)
    cases place.symm.trans place₀
    cases held.symm.trans held₀
    cases bound.symm.trans bound₀
    exact holds
  · rw [done] at failed
    cases failed

/-- A field that fails is not touched, and neither is it if one before it fails. -/
theorem bindSlots_of_error (fits : cells.length = slots.length) (place : slots[index]? = some slot)
    (held : cells[index]? = some cell) (fails : slot.bind row pattern cell = .error e) :
    (∃ e', (bindSlots row pattern slots cells).2 = .error e') ∧
      (bindSlots row pattern slots cells).1[index]? = cells[index]? := by
  obtain ⟨n, before, kept, outcome⟩ := bindSlots_stops row pattern fits
  have reached : n ≤ index := by
    refine Nat.not_lt.mp fun below => ?_
    obtain ⟨slot₀, cell₀, _, place₀, held₀, bound, -⟩ := before index below
    cases place.symm.trans place₀
    cases held.symm.trans held₀
    rw [fails] at bound
    cases bound
  refine ⟨?_, kept index reached⟩
  rcases outcome with ⟨all, -⟩ | ⟨_, _, e', -, -, -, failed⟩
  · exact absurd (all ▸ (List.getElem?_eq_some_iff.mp place).1) (Nat.not_lt.mpr reached)
  · exact ⟨e', failed⟩

end

theorem bindSlots_congr {slots : List Slot} {cells : List Cell}
    (same : ∀ slot ∈ slots, ∀ cell, slot.bind row pattern cell = slot.bind row' pattern cell) :
    bindSlots row pattern slots cells = bindSlots row' pattern slots cells := by
  induction slots generalizing cells with
  | nil => rfl
  | cons slot slots ih =>
    cases cells with
    | nil => rfl
    | cons cell cells =>
      rw [bindSlots, bindSlots, same slot List.mem_cons_self cell,
        ih fun slot there => same slot (List.mem_cons_of_mem _ there)]

theorem bindRow_congr (same : ∀ column ∈ r.schema.columns, row'.get? column = row.get? column) :
    r.bindRow row' pattern content = r.bindRow row pattern content := by
  refine bindSlots_congr fun slot there cell => Slot.bind_congr fun unskipped => same _ ?_
  have spec : slot.spec ∈ r.schema.fields := List.mem_map.mpr ⟨slot, there, rfl⟩
  refine List.mem_map.mpr ⟨slot.spec, List.mem_filter.mpr ⟨spec, ?_⟩, rfl⟩
  rw [unskipped]
  rfl

theorem FailFast.of_success (owns : ∀ index, r.HoldsOwn row pattern content after index) :
    r.FailFast row pattern content after (.ok ()) := by
  refine ⟨⟨fun ⟨fault, failed⟩ => ?_, fun ⟨index, binds, e, fails⟩ => ?_⟩, fun fault failed => ?_, fun _ => owns⟩
  · cases failed
  · obtain ⟨alone, bound, -⟩ := (owns index).bound binds
    rw [bound] at fails
    cases fails
  · cases failed

theorem FailFast.of_failure {n : Nat} (binds : r.Binds n) (fails : r.bindField row pattern content n = .error e)
    (own : ∀ j < n, r.HoldsOwn row pattern content after j) (kept : ∀ j, n ≤ j → after[j]? = content[j]?) :
    r.FailFast row pattern content after (.error (.refused e)) := by
  refine ⟨⟨fun _ => ⟨n, binds, e, fails⟩, fun _ => ⟨_, rfl⟩⟩, fun fault failed => ?_, fun succeeded => ?_⟩
  · cases failed
    exact ⟨n, e, rfl, binds, fails, own, kept⟩
  · cases succeeded

/-- Each field of a record is bound as it is alone, up to the first that fails. Columns of the result do not count,
    and neither do texts of the row under columns that no bound field reads. -/
theorem bindRow_failFast (fits : content.length = r.slots.length) (columns : List Column) (options : BinderOptions) :
    let bound := (RowTarget.record r).bindRow columns row options content
    r.FailFast row options.pattern content bound.1 bound.2 ∧
      ∀ columns' row', (∀ column ∈ r.schema.columns, row'.get? column = row.get? column) →
        (RowTarget.record r).bindRow columns' row' options content = bound := by
  have target (columns) (row) : (RowTarget.record r).bindRow columns row options content =
      ((r.bindRow row options.pattern content).1, (r.bindRow row options.pattern content).2.mapError .refused) := rfl
  simp only [target]
  refine ⟨?_, fun _ row' same => by rw [bindRow_congr same]⟩
  obtain ⟨n, before, kept, outcome⟩ := bindSlots_stops row options.pattern fits
  have own (j) (below : j < n) :
      r.HoldsOwn row options.pattern content (r.bindRow row options.pattern content).1 j := by
    obtain ⟨slot, cell, cell', place, held, bound, holds⟩ := before j below
    exact HoldsOwn.of_bind place held bound holds
  rcases outcome with ⟨all, done⟩ | ⟨slot, cell, e, place, held, fails, stopped⟩
  · rw [show (r.bindRow row options.pattern content).2 = .ok () from done]
    refine FailFast.of_success fun j => ?_
    by_cases below : j < n
    · exact own j below
    · -- There is no field any more.
      refine ⟨fun ⟨slot, place, _⟩ => ?_, fun _ => kept j (Nat.not_lt.mp below)⟩
      exact absurd (all ▸ (List.getElem?_eq_some_iff.mp place).1) below
  · obtain ⟨binds, failsAlone⟩ := bindField_error_of_bind place held fails
    rw [show (r.bindRow row options.pattern content).2 = .error e from stopped]
    exact FailFast.of_failure binds failsAlone own kept

/-- A user: a number, a name that has a default, an age, a flag, a score that may be absent, and a session that is
    never bound. -/
def user : RecordType :=
  ⟨"User", [Slot.ofSpec (.ofName "id" (.scalar (.int .u64))),
    Slot.ofSpec ((FieldSpec.ofName "name" (.scalar .text)).withDefault "anon"),
    Slot.ofSpec (.ofName "age" (.scalar (.int .i32))), Slot.ofSpec (.ofName "active" (.scalar .bool)),
    Slot.ofSpec (FieldSpec.ofName "score" (.scalar .double)).orAbsent,
    Slot.ofSpec (FieldSpec.ofName "session" (.scalar .text)).skipped]⟩

/-- A bad age: number and name are bound, the flag after it is not, and the session in the row is of no account. -/
theorem user_failFast :
    let row := Row.ofList [("id", some "9"), ("name", some "zed"), ("age", some "old"), ("active", some "1")]
    let bound := (RowTarget.record user).bindRow [] row .default user.initial
    user.FailFast row defaultPattern user.initial bound.1 bound.2 ∧
      bound = ([.int .u64 9, .text "zed", .int .i32 0, .bool false, .absent, .text ""],
        .error (.refused (.parse "age" "old" "i32"))) ∧
      (RowTarget.record user).bindRow [⟨"session", "TEXT"⟩] (row.set "session" (some "token")) .default
        user.initial = bound := by
  intro row bound
  obtain ⟨failFast, same⟩ := @bindRow_failFast row user user.initial rfl [] .default
  exact ⟨failFast, rfl, same _ _ (by decide)⟩

end RecordType

end StoreAccess
