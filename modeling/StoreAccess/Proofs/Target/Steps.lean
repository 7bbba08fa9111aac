import Mathlib.Data.Multiset.AddSub
import StoreAccess.Proofs.Target.Encoding

/-! What a sequence of steps leaves under a fingerprint. Each step gives fields, a map one for each of its entries,
    and what counts of them in the end is how often each key was given each collection of values. So steps, the
    elements of a list and the entries of a map may come in any order, while a text that is moved from a key to its
    value, or to the field behind, is always seen. -/

namespace StoreAccess

/-- A step in the making of a fingerprint. -/
inductive FingerprintStep where
  | field (key value : String)
  | number (key : String) (n : Int)
  | secret (key : String) (s : Secret)
  | list (key : String) (values : List String)
  | entries (key : String) (pairs : List (String × String))
  deriving DecidableEq

/-- A field, its values in order. -/
def sortedField (p : String × List String) : String × List String :=
  (p.1, p.2.mergeSort FingerprintFields.textLe)

namespace FingerprintFields

def take (f : FingerprintFields) : FingerprintStep → FingerprintFields
  | .field key value => f.field key value
  | .number key n => f.number key n
  | .secret key s => f.secret key s
  | .list key values => f.list key values
  | .entries key pairs => f.entries key pairs

def ofSteps (kind : BackendKind) (steps : List FingerprintStep) : FingerprintFields :=
  steps.foldl take (ofKind kind)

end FingerprintFields

namespace FingerprintStep

/-- The keys a step gives values to, with these values as they were given. -/
def given : FingerprintStep → List (String × List String)
  | field key value => [(key, [value])]
  | number key n => [(key, [String.ofList (intText n)])]
  | secret key s => [(key, [s.expose])]
  | list key values => [(key, values)]
  | entries key pairs => pairs.map fun p => (key ++ "." ++ p.1, [p.2])

/-- Eight bytes hold every length and count of a step. -/
def Measured (s : FingerprintStep) : Prop := ∀ p ∈ s.given, FingerprintFields.FieldMeasured p

instance (s : FingerprintStep) : Decidable s.Measured := inferInstanceAs (Decidable (∀ p ∈ s.given, _))

/-- What all steps collect: keys with their values, these in order, and how often each. -/
def collected (steps : List FingerprintStep) : Multiset (String × List String) :=
  ((steps.flatMap given).map sortedField : List _)

/-- The same step with the elements of its list, or the entries of its map, in another order. -/
inductive Reordered : FingerprintStep → FingerprintStep → Prop
  | refl (s : FingerprintStep) : Reordered s s
  | list (key : String) {values values' : List String} (perm : values.Perm values') :
      Reordered (list key values) (list key values')
  | entries (key : String) {pairs pairs' : List (String × String)} (perm : pairs.Perm pairs') :
      Reordered (entries key pairs) (entries key pairs')

/-- The same steps in another order, and reordered in themselves. -/
def SameUpToOrder (steps steps' : List FingerprintStep) : Prop :=
  ∃ reordered, List.Forall₂ Reordered steps reordered ∧ reordered.Perm steps'

end FingerprintStep

/-- A text is moved over a boundary between the fields that steps give: from a key to its first value, from a last
    value to the key of the next field, or from a value to the next one, in the same field or in the next. The latter
    two can amount to an exchange of what lies on both sides of the boundary, and do not count if they do. -/
inductive Moved : List (String × List String) → List (String × List String) → Prop
  | outOfKey (key value : String) (values : List String) {text : String} (moved : text ≠ "") :
      Moved [(key ++ text, value :: values)] [(key, (text ++ value) :: values)]
  | intoKey (key value key' : String) (values values' : List String) {text : String} (moved : text ≠ "") :
      Moved [(key, values ++ [value ++ text]), (key', values')] [(key, values ++ [value]), (text ++ key', values')]
  | intoValue (key value value' : String) (values values' : List String) {text : String} (moved : text ≠ "")
      (exchanged : ¬ (value ++ text = text ++ value' ∧ value' = value)) :
      Moved [(key, values ++ [value ++ text, value'] ++ values')] [(key, values ++ [value, text ++ value'] ++ values')]
  | intoField (key value key' value' : String) (values values' : List String) {text : String} (moved : text ≠ "")
      (exchanged : ¬ (key = key' ∧ (values ++ [value ++ text]).Perm ((text ++ value') :: values'))) :
      Moved [(key, values ++ [value ++ text]), (key', value' :: values')]
        [(key, values ++ [value]), (key', (text ++ value') :: values')]

/-! ### What is collected -/

variable {p q : String × List String} {old new before after : List (String × List String)}

theorem sortedField_single (key value : String) : sortedField (key, [value]) = (key, [value]) := by
  rw [sortedField, List.mergeSort_singleton]

theorem sortedField_eq_iff : sortedField p = sortedField q ↔ p.1 = q.1 ∧ p.2.Perm q.2 := by
  rw [sortedField, sortedField, Prod.mk.injEq, FingerprintFields.sorted_values_eq_iff]

theorem fieldMeasured_sortedField :
    FingerprintFields.FieldMeasured (sortedField p) ↔ FingerprintFields.FieldMeasured p := by
  simp only [FingerprintFields.FieldMeasured, sortedField, List.length_mergeSort, List.mem_mergeSort]

namespace FingerprintStep

variable {s s' : FingerprintStep} {steps steps' : List FingerprintStep}

theorem collected_eq_iff : collected steps = collected steps' ↔
    ((steps.flatMap given).map sortedField).Perm ((steps'.flatMap given).map sortedField) :=
  Multiset.coe_eq_coe

theorem Reordered.perm (reordered : Reordered s s') : (s.given.map sortedField).Perm (s'.given.map sortedField) := by
  cases reordered with
  | refl => exact List.Perm.refl _
  | @list key values values' perm =>
    have same : sortedField (key, values) = sortedField (key, values') := sortedField_eq_iff.mpr ⟨rfl, perm⟩
    rw [given, given, List.map_singleton, List.map_singleton, same]
  | entries key perm => exact (perm.map _).map _

theorem SameUpToOrder.collected_eq (same : SameUpToOrder steps steps') : collected steps = collected steps' := by
  obtain ⟨reordered, each, perm⟩ := same
  refine Eq.trans ?_ (collected_eq_iff.mpr ((perm.flatMap_right given).map sortedField))
  clear perm
  induction each with
  | nil => rfl
  | cons reordered _ ih =>
    rw [collected_eq_iff, List.flatMap_cons, List.flatMap_cons, List.map_append, List.map_append]
    exact reordered.perm.append (collected_eq_iff.mp ih)

end FingerprintStep

/-! ### What is moved -/

theorem append_ne_self {text : String} (moved : text ≠ "") (s : String) : s ++ text ≠ s :=
  fun same => moved (String.append_eq_left_iff.mp same)

theorem append_ne_self' {text : String} (moved : text ≠ "") (s : String) : text ++ s ≠ s :=
  fun same => moved (String.append_eq_right_iff.mp same)

theorem key_of_perm (perm : ([p].map sortedField).Perm ([q].map sortedField)) : p.1 = q.1 ∧ p.2.Perm q.2 :=
  sortedField_eq_iff.mp (List.singleton_perm_singleton.mp perm)

theorem Moved.not_perm (moved : Moved old new) : ¬ (old.map sortedField).Perm (new.map sortedField) := by
  intro same
  cases moved with
  | outOfKey key value values moved => exact append_ne_self moved key (key_of_perm same).1
  | intoKey key value key' values values' moved =>
    -- Each of the two fields would be one of the new ones, itself or the other.
    obtain ⟨first, second⟩ := mem_of_pair_perm same
    simp only [sortedField_eq_iff] at first second
    obtain ⟨sameKey, -⟩ | ⟨longer, -⟩ := second
    · obtain ⟨-, perm⟩ | ⟨longer, -⟩ := first
      · exact append_ne_self moved value (last_of_perm perm)
      · exact append_ne_self' moved key' (longer.symm.trans sameKey.symm)
    · exact append_ne_self' moved key' longer.symm
  | intoValue key value value' values values' moved exchanged =>
    have perm := (key_of_perm same).2
    rw [List.perm_append_right_iff, List.perm_append_left_iff] at perm
    obtain ⟨first, second⟩ := mem_of_pair_perm perm
    exact exchanged ⟨first.resolve_left (append_ne_self moved value),
      second.resolve_right (append_ne_self' moved value').symm⟩
  | intoField key value key' value' values values' moved exchanged =>
    obtain ⟨first, -⟩ := mem_of_pair_perm same
    simp only [sortedField_eq_iff] at first
    obtain ⟨-, perm⟩ | exchange := first
    · exact append_ne_self moved value (last_of_perm perm)
    · exact exchanged exchange

theorem Moved.not_perm_within (moved : Moved old new) :
    ¬ ((before ++ old ++ after).map sortedField).Perm ((before ++ new ++ after).map sortedField) := by
  intro same
  simp only [List.map_append, List.perm_append_right_iff, List.perm_append_left_iff] at same
  exact moved.not_perm same

namespace FingerprintFields

open FingerprintStep

variable {kind kind' : BackendKind} {steps steps' : List FingerprintStep}

/-! ### What is hashed -/

theorem take_eq (f : FingerprintFields) (s : FingerprintStep) :
    f.take s = ⟨f.kind, f.fields ++ s.given.map sortedField⟩ := by
  cases s with
  | field key value => rw [given, List.map_singleton, sortedField_single]; rfl
  | number key n => rw [given, List.map_singleton, sortedField_single]; rfl
  | secret key s => rw [given, List.map_singleton, sortedField_single]; rfl
  | list key values => rfl
  | entries key pairs =>
    have sorted : (pairs.map fun p => (key ++ "." ++ p.1, [p.2])).map sortedField =
        pairs.map fun p => (key ++ "." ++ p.1, [p.2]) := by
      rw [List.map_map]
      exact List.map_congr_left fun p _ => sortedField_single _ _
    rw [given, sorted, ← fields_entries, ← kind_entries f key pairs, take]

theorem ofSteps_eq (kind : BackendKind) (steps : List FingerprintStep) :
    ofSteps kind steps = ⟨kind, (steps.flatMap given).map sortedField⟩ := by
  have all : ∀ f : FingerprintFields, steps.foldl take f =
      ⟨f.kind, f.fields ++ (steps.flatMap given).map sortedField⟩ := by
    induction steps with
    | nil => exact fun f => by rw [List.flatMap_nil, List.map_nil, List.append_nil]; rfl
    | cons s steps ih =>
      intro f
      rw [List.foldl_cons, ih, take_eq, List.flatMap_cons, List.map_append, List.append_assoc]
  exact all (ofKind kind)

theorem allMeasured_ofSteps (measured : ∀ s ∈ steps, s.Measured) : (ofSteps kind steps).AllMeasured := by
  rw [ofSteps_eq]
  intro p collected
  obtain ⟨q, given, rfl⟩ := List.mem_map.mp collected
  obtain ⟨s, step, ofStep⟩ := List.mem_flatMap.mp given
  exact fieldMeasured_sortedField.mpr (measured s step q ofStep)

/-- No order in which the same was collected shows, whatever the lengths. -/
theorem bytes_of_collected (same : collected steps = collected steps') :
    (ofSteps kind steps).bytes = (ofSteps kind steps').bytes := by
  rw [ofSteps_eq, ofSteps_eq, bytes, bytes]
  congr 2
  exact (mergeSort_eq_iff fieldLe_trans fieldLe_total fieldLe_antisymm).mpr (collected_eq_iff.mp same)

/-- The bytes under two fingerprints are the same iff the kinds are and the steps have collected the same. So no
    order of steps, of the elements of a list or of the entries of a map shows in a fingerprint, and a text that is
    moved over a boundary does, whatever surrounds it. -/
theorem bytes_eq_iff_collected (measured : ∀ s ∈ steps, s.Measured) (measured' : ∀ s ∈ steps', s.Measured) :
    ((ofSteps kind steps).bytes = (ofSteps kind' steps').bytes ↔ kind = kind' ∧ collected steps = collected steps') ∧
      (SameUpToOrder steps steps' → (ofSteps kind steps).finish = (ofSteps kind steps').finish) ∧
      ∀ before after old new, Moved old new → steps.flatMap given = before ++ old ++ after →
        steps'.flatMap given = before ++ new ++ after → (ofSteps kind steps).bytes ≠ (ofSteps kind' steps').bytes := by
  have iff_collected : (ofSteps kind steps).bytes = (ofSteps kind' steps').bytes ↔
      kind = kind' ∧ collected steps = collected steps' := by
    rw [bytes_eq_iff (allMeasured_ofSteps measured) (allMeasured_ofSteps measured'), ofSteps_eq, ofSteps_eq,
      collected_eq_iff]
  refine ⟨iff_collected, fun same => ?_, fun before after old new moved given given' same => ?_⟩
  · exact congrArg (fun bytes => Fingerprint.mk (Sha256.digest bytes)) (bytes_of_collected same.collected_eq)
  · have perm := collected_eq_iff.mp (iff_collected.mp same).2
    rw [given, given'] at perm
    exact moved.not_perm_within perm

/-- A key that is given twice, entries and a list in another order, and a digit that leaves a value for the next
    key. -/
theorem bytes_of_cluster :
    let steps := [.list "at" ["b", "a"], .number "at" 12, .secret "key" ⟨""⟩, .entries "m" [("p", "1"), ("q", "2")]]
    let reordered := [.entries "m" [("q", "2"), ("p", "1")], .number "at" 12, .list "at" ["a", "b"], .secret "key" ⟨""⟩]
    let moved := [.list "at" ["b", "a"], .number "at" 1, .secret "2key" ⟨""⟩, .entries "m" [("p", "1"), ("q", "2")]]
    (ofSteps .coordination steps).bytes = (ofSteps .coordination reordered).bytes ∧
      (ofSteps .coordination steps).finish = (ofSteps .coordination reordered).finish ∧
      (ofSteps .coordination steps).bytes ≠ (ofSteps .document reordered).bytes ∧
      (ofSteps .coordination steps).bytes ≠ (ofSteps .coordination moved).bytes := by
  intro steps reordered moved
  have measured : ∀ s ∈ steps, s.Measured := by decide
  have measured' : ∀ s ∈ reordered, s.Measured := by decide
  have measured'' : ∀ s ∈ moved, s.Measured := by decide
  have same : SameUpToOrder steps reordered :=
    ⟨[.list "at" ["a", "b"], .number "at" 12, .secret "key" ⟨""⟩, .entries "m" [("q", "2"), ("p", "1")]],
      .cons (.list _ (by decide)) (.cons (.refl _) (.cons (.refl _) (.cons (.entries _ (by decide)) .nil))), by decide⟩
  have digit : Moved [("at", [] ++ ["1" ++ "2"]), ("key", [""])] [("at", [] ++ ["1"]), ("2" ++ "key", [""])] :=
    .intoKey _ _ _ _ _ (by decide)
  obtain ⟨iff_collected, same_of_order, -⟩ := @bytes_eq_iff_collected .coordination .coordination _ _ measured measured'
  obtain ⟨otherKind, -, -⟩ := @bytes_eq_iff_collected .coordination .document _ _ measured measured'
  obtain ⟨-, -, changed⟩ := @bytes_eq_iff_collected .coordination .coordination _ _ measured measured''
  refine ⟨iff_collected.mpr ⟨rfl, same.collected_eq⟩, same_of_order same, fun bytes => ?_, ?_⟩
  · cases (otherKind.mp bytes).1
  · exact changed [("at", ["b", "a"])] [("m.p", ["1"]), ("m.q", ["2"])] _ _ digit (by decide) (by decide)

end FingerprintFields

end StoreAccess
