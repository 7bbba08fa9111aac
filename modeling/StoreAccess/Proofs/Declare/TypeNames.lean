import StoreAccess.Proofs.Bind.Conversions
import StoreAccess.Proofs.Declare.Alignment

/-! Type names in schemas and setters. A schema gives a declared field the kind that its type name stands for, and the
    setter assigns to it if the name is among those it converts to. The two go by lists of their own, which agree on
    every name but `str`: a field of a type of this name is described as one for texts and refused by the setter,
    whatever it is handed, so no row is ever bound to a record that has one. -/

namespace StoreAccess

variable {name : String}

/-! ### Names -/

theorem Scalar.mem_of_ofTypeName? {s : Scalar} (known : ofTypeName? name = some s) :
    name ∈ Declare.assignable ∨ name = "str" := by
  have listed : ∀ x ∈ Declare.typeKinds, x.1 ∈ Declare.assignable ∨ x.1 = "str" := by decide
  exact listed (name, s) (Declare.mem_typeKinds known)

namespace FieldKind

theorem ofTypeName_of_unsupported (unsupported : (ofTypeName name).isUnsupported = true) :
    ofTypeName name = .unsupported name := by
  unfold ofTypeName at unsupported ⊢
  cases known : Scalar.ofTypeName? name with
  | none => rfl
  | some s =>
    rw [known] at unsupported
    cases unsupported

/-- Kinds stand for the names that setters convert to, and for one more. -/
theorem isUnsupported_ofTypeName_eq_false_iff :
    (ofTypeName name).isUnsupported = false ↔ Declare.assignable.contains name = true ∨ name = "str" := by
  rw [List.contains_iff_mem]
  constructor
  · intro supported
    unfold ofTypeName at supported
    cases known : Scalar.ofTypeName? name with
    | none =>
      rw [known] at supported
      cases supported
    | some s => exact Scalar.mem_of_ofTypeName? known
  · rintro (assignable | rfl)
    · obtain ⟨x, listed, rfl⟩ := Declare.exists_fieldType name assignable
      rw [(Declare.fieldTypes_agree x listed).2]
      rfl
    · rfl

end FieldKind

/-! ### Setters -/

/-- A conversion never says that its type is not supported. -/
theorem Scalar.convert_ne_unsupported {s : Scalar} {v : FieldValue} {target field kind : String} :
    s.convert v target ≠ .error (.unsupported field kind) := by
  unfold convert convertInt FieldValue.mismatch
  split <;> (try split) <;> simp

theorem Scalar.convertOptional_ne_unsupported {s : Scalar} {optional : Bool} {v : FieldValue}
    {target field kind : String} : s.convertOptional optional v target ≠ .error (.unsupported field kind) := by
  unfold convertOptional
  split
  · simp
  · exact convert_ne_unsupported

namespace Slot

variable {row : Row} {pattern : String}

/-- A field for texts is always handed something, if only the empty text. -/
theorem handed_ne_none {f : FieldSpec} (kind : f.kind = .scalar .text) (unskipped : f.skip = false) :
    handed f row pattern ≠ .ok none := by
  intro nothing
  cases text : resolve f row with
  | some raw =>
    have read : FieldValue.coerce f raw pattern = .ok (.text raw) := by
      rw [FieldValue.coerce, kind]
      rfl
    rw [handed_of_resolve unskipped text, read] at nothing
    cases nothing
  | none =>
    simp only [handed, unskipped, text, kind, FieldKind.isUnsupported, Bool.false_eq_true, ↓reduceIte] at nothing
    split at nothing
    · cases nothing
    · split at nothing <;> cases nothing

/-- A field for texts that its setter refuses is bound by no row. -/
theorem exists_error_of_reject {slot : Slot} {content : Cell} {field name : String}
    (kind : slot.spec.kind = .scalar .text) (unskipped : slot.spec.skip = false)
    (rejects : slot.assignment = .reject field name) : ∃ e, slot.bind row pattern content = .error e := by
  rw [bind, rejects]
  cases given : handed slot.spec row pattern with
  | error e => exact ⟨e, rfl⟩
  | ok v? =>
    cases v? with
    | none => exact absurd given (handed_ne_none kind unskipped)
    | some v => exact ⟨.unsupported field name, rfl⟩

end Slot

namespace Declare

variable {s : Struct} {r : Record} {index : Nat} {d : Described}

/-- Schema and setter say the same of the type of a field. -/
structure Agrees (r : Record) (index : Nat) (d : Described) : Prop where
  assigns_iff : r.arms.lookup index = some (.assign d.name) ↔ d.spec.kind.isUnsupported = false
  rejects_iff : r.arms.lookup index = some (.reject d.name d.typeName) ↔ d.spec.kind = .unsupported d.typeName
  /-- The setter reports a type as not supported only if the schema does. -/
  reported : ∀ cell v field kind, (r.assignment index d.spec).apply cell v = .error (.unsupported field kind) →
    field = d.name ∧ d.spec.kind = .unsupported kind
  /-- It takes what was read of any text. -/
  taken : ∀ raw pattern v, FieldValue.coerce d.spec raw pattern = .ok v →
    ∀ cell, ∃ after, (r.assignment index d.spec).apply cell v = .ok after

/-- The schema describes a field as one for texts, and the setter refuses it. -/
structure Drifts (r : Record) (index : Nat) (d : Described) : Prop where
  kind : d.spec.kind = .scalar .text
  rejects : r.arms.lookup index = some (.reject d.name d.typeName)
  read : ∀ raw pattern, FieldValue.coerce d.spec raw pattern = .ok (.text raw)
  refused : ∀ cell v, (r.assignment index d.spec).apply cell v = .error (.unsupported d.name d.typeName)
  /-- No row is bound, not even one without the column of the field. -/
  unbound : ∀ initial columns row options content, content.length = r.fields.length →
    ∃ fault, ((RowTarget.record (r.recordType initial)).bindRow columns row options content).2 = .error fault

theorem lookup_eq_arm (declared : s.record? = some r) (place : r.fields[index]? = some d)
    (unskipped : d.spec.skip = false) : r.arms.lookup index = some d.arm := by
  rw [Struct.lookup_arms declared place, unskipped]
  rfl

theorem agrees_of_assignable (declared : s.record? = some r) (place : r.fields[index]? = some d)
    (unskipped : d.spec.skip = false) (assigned : assignable.contains d.typeName = true) : Agrees r index d := by
  have arm := lookup_eq_arm declared place unskipped
  rw [Described.arm, if_pos assigned] at arm
  obtain ⟨x, listed, named⟩ := exists_fieldType d.typeName (List.contains_iff_mem.mp assigned)
  have kind : d.spec.kind = .scalar x.2 := by rw [d.spec_kind, ← named, (fieldTypes_agree x listed).2]
  have converts : r.assignment index d.spec = .convert x.2 d.spec.optional d.name := by
    rw [Record.assignment, arm, kind]
  refine ⟨iff_of_true arm (by rw [kind]; rfl), iff_of_false (by simp [arm]) (by rw [kind]; simp), ?_, ?_⟩
  · intro cell v field unsupported reported
    rw [converts] at reported
    exact absurd reported Scalar.convertOptional_ne_unsupported
  · intro raw pattern v read cell
    rw [FieldValue.coerce, kind] at read
    obtain ⟨after, taken⟩ := Scalar.convertOptional_of_read d.spec.optional read
    exact ⟨after, by rw [converts]; exact taken d.name⟩

theorem agrees_of_unsupported (declared : s.record? = some r) (place : r.fields[index]? = some d)
    (unskipped : d.spec.skip = false) (unsupported : d.spec.kind.isUnsupported = true) : Agrees r index d := by
  have arm := lookup_eq_arm declared place unskipped
  have kind : d.spec.kind = .unsupported d.typeName :=
    d.spec_kind.trans (FieldKind.ofTypeName_of_unsupported (d.spec_kind ▸ unsupported))
  have rejected : ¬assignable.contains d.typeName = true := fun assigned => by
    rw [d.spec_kind, FieldKind.isUnsupported_ofTypeName_eq_false_iff.mpr (Or.inl assigned)] at unsupported
    cases unsupported
  rw [Described.arm, if_neg rejected] at arm
  have rejects : r.assignment index d.spec = .reject d.name d.typeName := by rw [Record.assignment, arm]
  refine ⟨iff_of_false (by simp [arm]) (by rw [unsupported]; decide), iff_of_true arm kind, ?_, ?_⟩
  · intro cell v field name reported
    rw [rejects] at reported
    cases reported
    exact ⟨rfl, kind⟩
  · intro raw pattern v read
    rw [FieldValue.coerce, kind] at read
    cases read

theorem drifts_of_eq (declared : s.record? = some r) (place : r.fields[index]? = some d)
    (unskipped : d.spec.skip = false) (drifted : d.typeName = "str") : Drifts r index d := by
  have arm := lookup_eq_arm declared place unskipped
  have unassigned : ¬assignable.contains d.typeName = true := by
    rw [drifted]
    decide
  rw [Described.arm, if_neg unassigned] at arm
  have kind : d.spec.kind = .scalar .text := by
    rw [d.spec_kind, drifted]
    rfl
  have rejects : r.assignment index d.spec = .reject d.name d.typeName := by rw [Record.assignment, arm]
  refine ⟨kind, arm, fun raw pattern => ?_, fun cell v => ?_, fun initial columns row options content fits => ?_⟩
  · rw [FieldValue.coerce, kind]
    rfl
  · rw [rejects]
    rfl
  · have slot : (r.recordType initial).slots[index]? =
        some ⟨d.spec, .reject d.name d.typeName, initial d.spec⟩ := by
      rw [Record.slots_recordType, place, Option.map_some, rejects]
    have length : content.length = (r.recordType initial).slots.length := by
      rw [fits, Record.recordType, List.length_mapIdx, Record.schema, List.length_map]
    obtain ⟨cell, held⟩ : ∃ cell, content[index]? = some cell :=
      ⟨_, List.getElem?_eq_getElem (length ▸ (List.getElem?_eq_some_iff.mp slot).1)⟩
    obtain ⟨e, fails⟩ := @Slot.exists_error_of_reject row options.pattern
      ⟨d.spec, .reject d.name d.typeName, initial d.spec⟩ cell _ _ kind unskipped rfl
    obtain ⟨⟨e', failed⟩, -⟩ := RecordType.bindSlots_of_error length slot held fails
    exact ⟨.refused e', congrArg (Except.mapError BindFault.refused) failed⟩

/-- Schema and setter of a declared record say the same of the type of each field that is not skipped, unless the type
    is one named `str`. A field of such a type is one for texts to the schema, and one that cannot be set to the setter:
    whatever was read for it is refused, and so is every row. -/
theorem Struct.agrees_but_for_str (declared : s.record? = some r) {f : Field} (there : s.fields[index]? = some f) :
    ∃ d, r.fields[index]? = some d ∧ f.Specified d.spec d.typeName ∧
      (d.spec.skip = false → (Agrees r index d ↔ d.typeName ≠ "str") ∧ (d.typeName = "str" → Drifts r index d)) := by
  obtain ⟨d, _, described, place⟩ := describe?_of_record? declared there
  refine ⟨d, place, Field.specified_of_describe? described, fun unskipped => ⟨⟨?_, fun ordinary => ?_⟩, ?_⟩⟩
  · intro agrees drifted
    have drifts := drifts_of_eq declared place unskipped drifted
    have supported := agrees.assigns_iff.mpr (by rw [drifts.kind]; rfl)
    rw [drifts.rejects] at supported
    cases supported
  · cases kind : d.spec.kind.isUnsupported with
    | true => exact agrees_of_unsupported declared place unskipped kind
    | false =>
      rw [d.spec_kind, FieldKind.isUnsupported_ofTypeName_eq_false_iff, or_iff_left ordinary] at kind
      exact agrees_of_assignable declared place unskipped kind
  · exact drifts_of_eq declared place unskipped

/-- A note has a title, and a body of a type that is named `str` in its module. -/
def note : Struct :=
  ⟨"Note", .named, false, [], [⟨some "title", "String", []⟩, ⟨some "body", "Option<markup::str>", []⟩]⟩

def noteRecord : Record :=
  ⟨"Note", [⟨"title", "String", []⟩, ⟨"body", "str", [.optional]⟩], [(0, .assign "title"), (1, .reject "body" "str")]⟩

theorem note_title_agrees_body_drifts : note.record? = some noteRecord ∧
    Agrees noteRecord 0 ⟨"title", "String", []⟩ ∧ Drifts noteRecord 1 ⟨"body", "str", [.optional]⟩ := by
  have declared : note.record? = some noteRecord := rfl
  obtain ⟨title, first, -, ofTitle⟩ := @Struct.agrees_but_for_str _ _ 0 declared ⟨some "title", "String", []⟩ rfl
  obtain ⟨body, second, -, ofBody⟩ :=
    @Struct.agrees_but_for_str _ _ 1 declared ⟨some "body", "Option<markup::str>", []⟩ rfl
  cases first
  cases second
  exact ⟨declared, (ofTitle rfl).1.mpr (by decide), (ofBody rfl).2 rfl⟩

/-- The body is described as a text, what a row gives it is read as one, and the setter says that its type is not
    supported. -/
theorem note_body_read_and_refused :
    ∃ r, note.record? = some r ∧ r.arms.lookup 1 = some (.reject "body" "str") ∧
      ∃ f, r.schema.fields[1]? = some f ∧ f.kind.isUnsupported = false ∧
        FieldValue.coerce f "hello" defaultPattern = .ok (.text "hello") ∧
        (r.assignment 1 f).apply .absent (.text "hello") = .error (.unsupported "body" "str") :=
  ⟨noteRecord, rfl, rfl, _, rfl, rfl, rfl, rfl⟩

end Declare
end StoreAccess
