import Mathlib.Data.List.Induction
import StoreAccess.Proofs.Data.Lists
import StoreAccess.Proofs.Declare.Records

/-! Schema and setter of a declared record go together. The schema has one description for each field, in the order
    of declaration, and it says what the declaration of that field says. The setter has one arm for each field that
    is not skipped, at the index of its description, and the arm sets that very field or refuses in its name. -/

namespace StoreAccess
namespace Declare

/-! ### Attributes -/

/-- What an item says of its key: a text, or a flag. -/
def Item.meaning? (i : Item) : Option Literal :=
  if i.key = "column" ∨ i.key = "default" then i.text?.map .text
  else if i.key = "not_empty" ∨ i.key = "skip" then i.flag?.map .bool
  else none

/-- The item of a key. -/
def item? (items : List Item) (key : String) : Option Item := items.find? fun i => i.key == key

namespace Attributes

/-- What is known of a key. -/
def get? (a : Attributes) (key : String) : Option Literal :=
  if key = "column" then a.column.map .text
  else if key = "default" then a.default.map .text
  else if key = "not_empty" then a.notEmpty.map .bool
  else if key = "skip" then a.skip.map .bool
  else .none

variable {a b : Attributes} {i : Item} {items : List Item}

/-- An item is added if nothing is known of its key yet, and then what it says is. -/
theorem add?_eq_some (added : a.add? i = some b) :
    a.get? i.key = .none ∧ i.meaning?.isSome ∧ ∀ key, b.get? key = if key = i.key then i.meaning? else a.get? key := by
  unfold add? at added
  repeat' split at added
  any_goals cases added
  -- The same for each of the keys, of which nothing was said.
  all_goals
    rename_i own unsaid
    obtain ⟨_, lifted, rfl⟩ := Option.map_eq_some_iff.mp added
    obtain ⟨x, value, same⟩ := Option.bind_eq_some_iff.mp lifted
    cases same
    refine ⟨by simpa [get?, own] using unsaid, by simp [Item.meaning?, own, value], fun key => ?_⟩
    by_cases same : key = i.key
    · simp [same, own, get?, Item.meaning?, value]
    · rw [if_neg same]
      rw [own] at same
      simp [get?, same]

/-- What is known of a key is what its item says; of all other keys there are no items. -/
theorem get?_of_ofItems? (read : ofItems? items = some a) (key : String) :
    a.get? key = (item? items key).bind Item.meaning? ∧ (a.get? key = .none → item? items key = .none) := by
  induction items using List.reverseRecOn generalizing a with
  | nil =>
    cases read
    have empty : none.get? key = .none := by simp [get?, none]
    exact ⟨empty, fun _ => rfl⟩
  | append_singleton items i ih =>
    rw [ofItems?, List.foldlM_append, Option.bind_eq_bind, Option.bind_eq_some_iff] at read
    obtain ⟨b, earlier, last⟩ := read
    obtain ⟨new, said, now⟩ := add?_eq_some (show b.add? i = some a by simpa using last)
    obtain ⟨before, unsaid⟩ := ih earlier
    rw [now]
    by_cases own : key = i.key
    · have first : item? (items ++ [i]) key = some i := by
        have absent : item? items key = .none := unsaid (own ▸ new)
        unfold item? at absent ⊢
        rw [List.find?_append, absent]
        simp [own]
      rw [if_pos own, first]
      exact ⟨rfl, fun silent => by rw [silent] at said; cases said⟩
    · have same : item? (items ++ [i]) key = item? items key := by
        simp [item?, List.find?_append, Ne.symm own]
      rw [if_neg own, same]
      exact ⟨before, unsaid⟩

end Attributes

/-- What the items say of a key: a text, or a flag. -/
def text? (items : List Item) (key : String) : Option String := (item? items key).bind Item.text?

def flag? (items : List Item) (key : String) : Option Bool := (item? items key).bind Item.flag?

theorem bind_meaning?_text {items : List Item} {key : String} (known : key = "column" ∨ key = "default") :
    (item? items key).bind Item.meaning? = (text? items key).map .text := by
  unfold text?
  cases found : item? items key with
  | none => rfl
  | some i =>
    have own : i.key = key := by simpa using List.find?_some found
    simp [Item.meaning?, own, known]

theorem bind_meaning?_flag {items : List Item} {key : String} (known : key = "not_empty" ∨ key = "skip") :
    (item? items key).bind Item.meaning? = (flag? items key).map .bool := by
  unfold flag?
  cases found : item? items key with
  | none => rfl
  | some i =>
    have own : i.key = key := by simpa using List.find?_some found
    rcases known with rfl | rfl <;> simp [Item.meaning?, own]

theorem Attributes.eq_of_ofItems? {a : Attributes} {items : List Item} (read : ofItems? items = some a) :
    a = ⟨text? items "column", text? items "default", flag? items "not_empty", flag? items "skip"⟩ := by
  have known := fun key => (get?_of_ofItems? read key).1
  have texts : Function.Injective (Option.map Literal.text) := Option.map_injective fun _ _ => Literal.text.inj
  have flags : Function.Injective (Option.map Literal.bool) := Option.map_injective fun _ _ => Literal.bool.inj
  have column := texts ((known "column").trans (bind_meaning?_text (Or.inl rfl)))
  have default := texts ((known "default").trans (bind_meaning?_text (Or.inr rfl)))
  have notEmpty := flags ((known "not_empty").trans (bind_meaning?_flag (Or.inl rfl)))
  have skip := flags ((known "skip").trans (bind_meaning?_flag (Or.inr rfl)))
  rw [← column, ← default, ← notEmpty, ← skip]

/-! ### Types -/

/-- The name that a type goes by in a schema: of a path the last segment, whatever its argument is, and of any other
    type what is written. -/
inductive GoesBy : TypeExpr → String → Prop
  | path (segment : List Char) (argument : Option TypeExpr) : GoesBy (.path segment argument) (String.ofList segment)
  | other (tokens : List TypeToken) : GoesBy (.other tokens) (String.ofList (TypeToken.write tokens))

theorem goesBy_kindName (t : TypeExpr) : GoesBy t t.kindName := by
  cases t with
  | path segment argument => exact .path segment argument
  | other tokens => exact .other tokens

/-- The type names that stand for kinds of values, and the kinds. -/
def typeKinds : List (String × Scalar) :=
  [("String", .text), ("str", .text), ("bool", .bool), ("f32", .single), ("f64", .double),
   ("NaiveDateTime", .naiveTime), ("DateTime", .utcTime), ("i8", .int .i8), ("i16", .int .i16), ("i32", .int .i32),
   ("i64", .int .i64), ("isize", .int .isize), ("u8", .int .u8), ("u16", .int .u16), ("u32", .int .u32),
   ("u64", .int .u64), ("usize", .int .usize)]

theorem typeKinds_known :
    ∀ x ∈ typeKinds, typeKinds.lookup x.1 = some x.2 ∧ Scalar.ofTypeName? x.1 = some x.2 := by
  decide

theorem mem_typeKinds {name : String} {s : Scalar} (known : Scalar.ofTypeName? name = some s) :
    (name, s) ∈ typeKinds := by
  unfold Scalar.ofTypeName? at known
  split at known
  · rename_i text
    cases known
    rcases text with rfl | rfl <;> decide
  iterate 5
    split at known
    · rename_i same
      cases known
      exact same ▸ by decide
  · obtain ⟨t, found, rfl⟩ := Option.map_eq_some_iff.mp known
    obtain rfl : t.name = name := by simpa using List.find?_some found
    cases t <;> decide

theorem ofTypeName?_eq_lookup (name : String) : Scalar.ofTypeName? name = typeKinds.lookup name := by
  cases known : Scalar.ofTypeName? name with
  | some s => exact (typeKinds_known _ (mem_typeKinds known)).1.symm
  | none =>
    symm
    rw [← Option.not_isSome_iff_eq_none, ← mem_keys_iff]
    intro listed
    obtain ⟨x, there, rfl⟩ := List.mem_map.mp listed
    rw [(typeKinds_known x there).2] at known
    cases known

theorem ofTypeName_eq (name : String) :
    FieldKind.ofTypeName name = (typeKinds.lookup name).elim (.unsupported name) .scalar := by
  rw [FieldKind.ofTypeName, ofTypeName?_eq_lookup]

/-! ### Descriptions -/

/-- The description says what the declaration of the field says, and its values are of the named type. -/
structure Field.Specified (f : Field) (spec : FieldSpec) (typeName : String) : Prop where
  name : f.ident = some spec.name
  column : spec.column = (text? f.items "column").getD (String.ofList (Text.lower spec.name.toList))
  default : spec.default = text? f.items "default"
  notEmpty : spec.notEmpty = (flag? f.items "not_empty").getD false
  skip : spec.skip = (flag? f.items "skip").getD false
  kind : spec.kind = (typeKinds.lookup typeName).elim (.unsupported typeName) .scalar
  /-- It is the type itself, or if that is an `Option` of a type, that type. -/
  type : ∃ type, TypeExpr.ofText? f.typeText = some type ∧
    ((∃ inner, type = .path "Option".toList (some inner) ∧ spec.optional = true ∧ GoesBy inner typeName) ∨
      (∀ inner, type ≠ .path "Option".toList (some inner)) ∧ spec.optional = false ∧ GoesBy type typeName)

theorem TypeExpr.unwrapOption_cases (t : TypeExpr) :
    (∃ inner, t = .path "Option".toList (some inner) ∧ t.unwrapOption = (inner, true)) ∨
      (∀ inner, t ≠ .path "Option".toList (some inner)) ∧ t.unwrapOption = (t, false) := by
  cases t with
  | other tokens => exact Or.inr ⟨by simp, rfl⟩
  | path name argument =>
    cases argument with
    | none => exact Or.inr ⟨by simp, rfl⟩
    | some inner =>
      by_cases named : name = "Option".toList
      · subst named
        exact Or.inl ⟨inner, rfl, rfl⟩
      · refine Or.inr ⟨fun inner same => ?_, by rw [TypeExpr.unwrapOption, if_neg named]⟩
        cases same
        exact named rfl

theorem Described.spec_of_calls (name kind : String) (column default : Option String) (notEmpty skip optional : Bool) :
    (Described.mk name kind ((column.map Call.column).toList ++ (default.map Call.default).toList ++
      Call.when notEmpty .notEmpty ++ Call.when skip .skip ++ Call.when optional .optional)).spec =
      ⟨name, column.getD (FieldSpec.columnOf name), default, notEmpty, skip, optional, .ofTypeName kind⟩ := by
  cases column <;> cases default <;> cases notEmpty <;> cases skip <;> cases optional <;> rfl

theorem Field.specified_of_describe? {f : Field} {d : Described} {arm : Option Arm}
    (described : f.describe? = some (d, arm)) : f.Specified d.spec d.typeName := by
  simp only [Field.describe?, Option.bind_eq_bind, Option.bind_eq_some_iff] at described
  obtain ⟨name, ident, type, typed, a, read, made⟩ := described
  cases made
  have attributes := Attributes.eq_of_ofItems? read
  rw [Described.spec_of_calls]
  refine ⟨ident, ?_, ?_, ?_, ?_, ofTypeName_eq _, type, typed, ?_⟩
  · rw [attributes, FieldSpec.columnOf]
  · rw [attributes]
  · rw [attributes]
  · rw [attributes]
  · rcases TypeExpr.unwrapOption_cases type with ⟨inner, option, unwrapped⟩ | ⟨plain, unwrapped⟩
    · rw [unwrapped]
      exact Or.inl ⟨inner, option, rfl, goesBy_kindName inner⟩
    · rw [unwrapped]
      exact Or.inr ⟨plain, rfl, goesBy_kindName type⟩

/-! ### Setters -/

/-- The declaration is one that a record type can be derived from. -/
structure Struct.Derivable (s : Struct) : Prop where
  named : s.shape = .named
  plain : s.generic = false
  unmarked : s.items = []
  distinct : (s.fields.map Field.ident).Nodup
  fields : ∀ f ∈ s.fields, f.ident.isSome ∧ (TypeExpr.ofText? f.typeText).isSome ∧
    (Attributes.ofItems? f.items).isSome

/-- Sets a field by its name. -/
def setNamed (content : List (String × Cell)) (name : String) (cell : Cell) : List (String × Cell) :=
  content.map fun x => if x.1 = name then (name, cell) else x

/-- Sets the field at an index, as the arm of the index says. A field that is assigned to is known by its name. -/
def Record.set (r : Record) (content : List (String × Cell)) (index : Nat) (v : FieldValue) :
    Except BindError (List (String × Cell)) :=
  match r.arms.lookup index with
  | none => .ok content
  | some (.reject field kind) => .error (.unsupported field kind)
  | some (.assign field) =>
    match r.schema.field? field with
    | none => .ok content
    | some spec =>
      match spec.kind with
      | .unsupported kind => .error (.unsupported field kind)
      | .scalar scalar => (scalar.convertOptional spec.optional v field).map (setNamed content field)

/-- To set a field by its name is to set it at its index. -/
theorem setNamed_eq {content : List (String × Cell)} {index : Nat} {name : String} (cell : Cell)
    (distinct : (content.map Prod.fst).Nodup) (there : (content.map Prod.fst)[index]? = some name) :
    setNamed content name cell = content.set index (name, cell) := by
  rw [List.getElem?_map, Option.map_eq_some_iff] at there
  obtain ⟨⟨name, old⟩, there, rfl⟩ := there
  apply List.ext_getElem?
  intro j
  rw [setNamed, List.getElem?_map, List.getElem?_set]
  by_cases here : index = j
  · subst here
    obtain ⟨bound, -⟩ := List.getElem?_eq_some_iff.mp there
    rw [there, if_pos rfl, if_pos bound, Option.map_some, if_pos rfl]
  · rw [if_neg here]
    cases found : content[j]? with
    | none => rfl
    | some x =>
      have other : x.1 ≠ name := by
        intro same
        obtain ⟨bound, -⟩ := List.getElem?_eq_some_iff.mp there
        refine here ((List.getElem?_inj (by simpa using bound) distinct).mp ?_)
        rw [List.getElem?_map, List.getElem?_map, there, found, Option.map_some, Option.map_some, same]
      simp [other]

/-! ### Derived records -/

namespace Struct

variable {s : Struct} {r : Record}

theorem Derivable.declared (derivable : s.Derivable) : ∃ r, s.record? = some r := by
  have each : ∀ f ∈ s.fields, f.describe?.isSome := fun f there => by
    obtain ⟨ident, typed, marked⟩ := derivable.fields f there
    obtain ⟨name, ident⟩ := Option.isSome_iff_exists.mp ident
    obtain ⟨type, typed⟩ := Option.isSome_iff_exists.mp typed
    obtain ⟨a, marked⟩ := Option.isSome_iff_exists.mp marked
    simp [Field.describe?, ident, typed, marked]
  obtain ⟨described, all⟩ := exists_mapM each
  exact ⟨⟨s.name, described.map Prod.fst, numbered 0 (described.map Prod.snd)⟩,
    by simp [record?, derivable.named, derivable.plain, derivable.unmarked, all]⟩

/-- The record type is described field by field. -/
theorem described_of_record? (declared : s.record? = some r) :
    ∃ described : List (Described × Option Arm),
      r = ⟨s.name, described.map Prod.fst, numbered 0 (described.map Prod.snd)⟩ ∧
      s.fields.map Field.describe? = described.map some := by
  simp only [record?, Option.bind_eq_bind] at declared
  split at declared
  · cases declared
  · simp only [Option.bind_eq_some_iff] at declared
    obtain ⟨described, each, made⟩ := declared
    cases made
    exact ⟨described, rfl, map_of_mapM each⟩

theorem describe?_of_record? (declared : s.record? = some r) {index : Nat} {f : Field}
    (there : s.fields[index]? = some f) : ∃ d arm, f.describe? = some (d, arm) ∧ r.fields[index]? = some d := by
  obtain ⟨described, rfl, each⟩ := described_of_record? declared
  have here := congrArg (fun l => l[index]?) each
  simp only [List.getElem?_map, there, Option.map_some] at here
  obtain ⟨⟨d, arm⟩, place, same⟩ := Option.map_eq_some_iff.mp here.symm
  exact ⟨d, arm, same.symm, by simp [place]⟩

end Struct

namespace Record

variable {s : Struct} {r : Record} {content : List (String × Cell)} {index : Nat} {spec : FieldSpec}

/-- A field is found by its name. -/
theorem field?_eq (distinct : (r.schema.fields.map FieldSpec.name).Nodup)
    (place : r.schema.fields[index]? = some spec) :
    r.schema.field? spec.name = some spec := by
  have there := List.mem_of_getElem? place
  cases found : r.schema.field? spec.name with
  | none => simpa using List.find?_eq_none.mp found spec there
  | some spec' =>
    have same : spec'.name = spec.name := by simpa using List.find?_some found
    exact congrArg some (List.inj_on_of_nodup_map distinct (List.mem_of_find?_eq_some found) there same)

/-- The arm of a field refuses it, or sets it at its index. -/
theorem set_cases {d : Described} (distinct : (r.schema.fields.map FieldSpec.name).Nodup)
    (names : content.map Prod.fst = r.schema.fields.map FieldSpec.name) (place : r.fields[index]? = some d)
    (arm : r.arms.lookup index = some d.arm) (v : FieldValue) :
    (∃ kind, r.assignment index d.spec = .reject d.spec.name kind ∧
      r.set content index v = .error (.unsupported d.spec.name kind)) ∨
    ∃ scalar, d.spec.kind = .scalar scalar ∧ r.assignment index d.spec = .convert scalar d.spec.optional d.spec.name ∧
      r.set content index v =
        (scalar.convertOptional d.spec.optional v d.spec.name).map
          fun cell => content.set index (d.spec.name, cell) := by
  have described : r.schema.fields[index]? = some d.spec := by simp [schema, place]
  have there : (content.map Prod.fst)[index]? = some d.spec.name := by
    rw [names, List.getElem?_map, described, Option.map_some]
  have found := field?_eq distinct described
  rw [set, assignment, arm, Described.arm, ← d.spec_name]
  by_cases supported : assignable.contains d.typeName
  · rw [if_pos supported]
    simp only [found]
    cases kind : d.spec.kind with
    | unsupported other => exact Or.inl ⟨other, rfl, rfl⟩
    | scalar scalar =>
      refine Or.inr ⟨scalar, rfl, rfl, ?_⟩
      have byIndex : setNamed content d.spec.name = fun cell => content.set index (d.spec.name, cell) :=
        funext fun cell => setNamed_eq cell (names ▸ distinct) there
      rw [← byIndex]
  · rw [if_neg supported]
    exact Or.inl ⟨d.typeName, rfl, rfl⟩

end Record

namespace Struct

variable {s : Struct} {r : Record}

end Struct

/-- A declaration with a field of its own column, one that is skipped, one that may be absent, one of a type that
    cannot be bound, and one whose flags are written out. -/
def sample : Struct where
  name := "User"
  shape := .named
  generic := false
  items := []
  fields :=
    [⟨some "Id", "u64", []⟩,
     ⟨some "session", "Vec<u8>", [⟨"skip", none⟩]⟩,
     ⟨some "last_login", "std::option::Option<chrono::NaiveDateTime>", [⟨"column", some (.text "LastLogin")⟩]⟩,
     ⟨some "tags", "Vec<String>", [⟨"not_empty", none⟩, ⟨"default", some (.text "none")⟩]⟩,
     ⟨some "Note", "String", [⟨"skip", some (.text "false")⟩, ⟨"not_empty", some (.bool true)⟩]⟩]

end Declare
end StoreAccess
