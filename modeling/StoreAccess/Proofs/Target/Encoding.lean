import Mathlib.Algebra.Group.Nat.Defs
import StoreAccess.Config.Fingerprint
import StoreAccess.Proofs.Data.Lists

/-! The bytes under a fingerprint can be read back: each text stands behind its length and each list of values
    behind its count, so bytes tell where they end, and the sorted fields follow from them. As sorting forgets
    the order and nothing else, two lists of fields have the same bytes iff one is the other in some order. -/

namespace StoreAccess

/-! ### Codes that tell where they end -/

section Codes

variable {α : Type} {P : α → Prop} {code : α → List UInt8}

/-- Whatever follows the code of a value, code and rest are told apart in one way only. -/
def Delimits (P : α → Prop) (code : α → List UInt8) : Prop :=
  ∀ {x y : α} {r s : List UInt8}, P x → P y → code x ++ r = code y ++ s → x = y ∧ r = s

/-- Values one after the other, of which the number is known. -/
theorem Delimits.flatMap (delimits : Delimits P code) :
    ∀ {l m : List α} {r s : List UInt8}, l.length = m.length → (∀ x ∈ l, P x) → (∀ x ∈ m, P x) →
      l.flatMap code ++ r = m.flatMap code ++ s → l = m ∧ r = s
  | [], [], _, _, _, _, _, same => ⟨rfl, same⟩
  | x :: l, y :: m, r, s, length, hl, hm, same => by
    rw [List.flatMap_cons, List.flatMap_cons, List.append_assoc, List.append_assoc] at same
    obtain ⟨rfl, rest⟩ := delimits (hl x List.mem_cons_self) (hm y List.mem_cons_self) same
    obtain ⟨rfl, rfl⟩ := delimits.flatMap (Nat.succ.inj length) (fun z hz => hl z (List.mem_cons_of_mem _ hz))
      (fun z hz => hm z (List.mem_cons_of_mem _ hz)) rest
    exact ⟨rfl, rfl⟩

/-- Values one after the other up to the end: no code is empty, so both lists end together. -/
theorem Delimits.flatMap_inj (delimits : Delimits P code) (nonempty : ∀ x, code x ≠ []) :
    ∀ {l m : List α}, (∀ x ∈ l, P x) → (∀ x ∈ m, P x) → l.flatMap code = m.flatMap code → l = m
  | [], [], _, _, _ => rfl
  | [], y :: _, _, _, same => absurd (List.append_eq_nil_iff.mp same.symm).1 (nonempty y)
  | x :: _, [], _, _, same => absurd (List.append_eq_nil_iff.mp same).1 (nonempty x)
  | x :: l, y :: m, hl, hm, same => by
    obtain ⟨rfl, rest⟩ := delimits (hl x List.mem_cons_self) (hm y List.mem_cons_self) same
    rw [delimits.flatMap_inj nonempty (fun z hz => hl z (List.mem_cons_of_mem _ hz))
      (fun z hz => hm z (List.mem_cons_of_mem _ hz)) rest]

end Codes

theorem Text.utf8_inj {s t : String} (same : Text.utf8 s = Text.utf8 t) : s = t := by
  have bytes : (String.ofList s.toList).toByteArray = (String.ofList t.toList).toByteArray := by
    rw [String.toByteArray_ofList, String.toByteArray_ofList]
    exact congrArg List.toByteArray same
  rw [String.toByteArray_inj, String.ofList_toList, String.ofList_toList] at bytes
  exact bytes

namespace Sha256

@[simp] theorem length_bigEndian (count n : Nat) : (bigEndian count n).length = count := by
  induction count generalizing n with
  | zero => rfl
  | succ count ih => rw [bigEndian, List.length_append, ih, List.length_singleton]

theorem bigEndian_inj {count m n : Nat} (hm : m < 256 ^ count) (hn : n < 256 ^ count)
    (same : bigEndian count m = bigEndian count n) : m = n := by
  induction count generalizing m n with
  | zero => rw [Nat.lt_one_iff.mp hm, Nat.lt_one_iff.mp hn]
  | succ count ih =>
    rw [Nat.pow_succ] at hm hn
    obtain ⟨high, low⟩ := List.append_inj' same rfl
    have quotient := ih (Nat.div_lt_of_lt_mul (Nat.mul_comm _ _ ▸ hm))
      (Nat.div_lt_of_lt_mul (Nat.mul_comm _ _ ▸ hn)) high
    have remainder := congrArg UInt8.toNat (List.cons.inj low).1
    rw [UInt8.toNat_ofNat', UInt8.toNat_ofNat'] at remainder
    omega

end Sha256

namespace FingerprintFields

/-! ### The fields of a map -/

theorem kind_entries (f : FingerprintFields) (key : String) (pairs : List (String × String)) :
    (f.entries key pairs).kind = f.kind := by
  unfold entries
  induction pairs generalizing f with
  | nil => rfl
  | cons p pairs ih => exact ih _

theorem fields_entries (f : FingerprintFields) (key : String) (pairs : List (String × String)) :
    (f.entries key pairs).fields = f.fields ++ pairs.map fun p => (key ++ "." ++ p.1, [p.2]) := by
  unfold entries
  induction pairs generalizing f with
  | nil => exact (List.append_nil _).symm
  | cons p pairs ih => rw [List.foldl_cons, ih, List.map_cons, field, push, List.append_assoc, List.singleton_append]

/-! ### The code of a field -/

/-- A number that eight bytes hold. -/
def Counts (n : Nat) : Prop := n < 2 ^ 64

/-- A text whose length eight bytes hold. -/
def Measured (s : String) : Prop := Counts (Text.utf8 s).length

/-- A field of which the key, the number of values and each value are within what eight bytes hold. -/
def FieldMeasured (p : String × List String) : Prop :=
  Measured p.1 ∧ Counts p.2.length ∧ ∀ v ∈ p.2, Measured v

instance (n : Nat) : Decidable (Counts n) := inferInstanceAs (Decidable (n < 2 ^ 64))

instance (s : String) : Decidable (Measured s) := inferInstanceAs (Decidable (Counts _))

instance (p : String × List String) : Decidable (FieldMeasured p) := inferInstanceAs (Decidable (_ ∧ _ ∧ _))

theorem delimits_eightBytes : Delimits Counts eightBytes := by
  intro m n r s hm hn same
  obtain ⟨reversed, rest⟩ := List.append_inj same (by simp [eightBytes])
  exact ⟨Sha256.bigEndian_inj hm hn (List.reverse_inj.mp reversed), rest⟩

theorem delimits_counted : Delimits Measured counted := by
  intro a b r s ha hb same
  simp only [counted, List.append_assoc] at same
  obtain ⟨length, same⟩ := delimits_eightBytes ha hb same
  obtain ⟨bytes, rest⟩ := List.append_inj same length
  exact ⟨Text.utf8_inj bytes, rest⟩

theorem delimits_fieldBytes : Delimits FieldMeasured fieldBytes := by
  intro p q r s hp hq same
  simp only [fieldBytes, List.append_assoc] at same
  obtain ⟨key, same⟩ := delimits_counted hp.1 hq.1 same
  obtain ⟨count, same⟩ := delimits_eightBytes hp.2.1 hq.2.1 same
  obtain ⟨values, rest⟩ := delimits_counted.flatMap count hp.2.2 hq.2.2 same
  exact ⟨Prod.ext key values, rest⟩

theorem fieldBytes_ne_nil (p : String × List String) : fieldBytes p ≠ [] := by
  intro empty
  have length := congrArg List.length empty
  simp [fieldBytes, counted, eightBytes] at length

/-! ### The order of fields -/

theorem textLe_trans (a b c : String) (hab : textLe a b) (hbc : textLe b c) : textLe a c :=
  decide_eq_true (String.le_trans (of_decide_eq_true hab) (of_decide_eq_true hbc))

theorem textLe_total (a b : String) : textLe a b || textLe b a := by
  simpa [textLe] using String.le_total a b

theorem textLe_antisymm {a b : String} (hab : textLe a b) (hba : textLe b a) : a = b :=
  String.le_antisymm (of_decide_eq_true hab) (of_decide_eq_true hba)

theorem valuesLe_trans : ∀ a b c : List String, valuesLe a b → valuesLe b c → valuesLe a c
  | [], _, _, _, _ => rfl
  | a :: as, b :: bs, c :: cs, hab, hbc => by
    have ih := valuesLe_trans as bs cs
    have trans := textLe_trans a b c
    have antisymm := @textLe_antisymm a b
    grind [valuesLe]
  | _ :: _, _ :: _, [], _, hbc => nomatch hbc

theorem valuesLe_total : ∀ a b : List String, valuesLe a b || valuesLe b a
  | [], _ => rfl
  | _ :: _, [] => rfl
  | a :: as, b :: bs => by
    have ih := valuesLe_total as bs
    have total := textLe_total a b
    grind [valuesLe]

theorem valuesLe_antisymm : ∀ {a b : List String}, valuesLe a b → valuesLe b a → a = b
  | [], [], _, _ => rfl
  | a :: as, b :: bs, hab, hba => by
    have ih := @valuesLe_antisymm as bs
    have antisymm := @textLe_antisymm a b
    grind [valuesLe]

theorem fieldLe_trans (p q r : String × List String) (hpq : fieldLe p q) (hqr : fieldLe q r) : fieldLe p r := by
  have keys := textLe_trans p.1 q.1 r.1
  have antisymm := @textLe_antisymm p.1 q.1
  have values := valuesLe_trans p.2 q.2 r.2
  grind [fieldLe]

theorem fieldLe_total (p q : String × List String) : fieldLe p q || fieldLe q p := by
  have keys := textLe_total p.1 q.1
  have values := valuesLe_total p.2 q.2
  grind [fieldLe]

theorem fieldLe_antisymm {p q : String × List String} (hpq : fieldLe p q) (hqp : fieldLe q p) : p = q := by
  have keys := @textLe_antisymm p.1 q.1
  have values := @valuesLe_antisymm p.2 q.2
  refine Prod.ext ?_ ?_ <;> grind [fieldLe]

theorem sorted_values_eq_iff {l m : List String} : l.mergeSort textLe = m.mergeSort textLe ↔ l.Perm m :=
  mergeSort_eq_iff textLe_trans textLe_total textLe_antisymm

/-! ### The bytes of all fields -/

/-- Kinds are told apart by the first byte of their names. -/
theorem kind_of_initial (k k' : BackendKind) (same : (Text.utf8 k.name).head? = (Text.utf8 k'.name).head?) :
    k = k' := by
  revert same
  cases k <;> cases k' <;> decide

theorem kind_of_name {k k' : BackendKind} {r s : List UInt8}
    (same : Text.utf8 k.name ++ r = Text.utf8 k'.name ++ s) : k = k' := by
  have named (k : BackendKind) (r : List UInt8) : (Text.utf8 k.name ++ r).head? = (Text.utf8 k.name).head? := by
    cases k <;> rfl
  exact kind_of_initial k k' (by rw [← named k r, same, named])

/-- All lengths and counts are within what eight bytes hold. -/
def AllMeasured (f : FingerprintFields) : Prop := ∀ p ∈ f.fields, FieldMeasured p

instance (f : FingerprintFields) : Decidable f.AllMeasured := inferInstanceAs (Decidable (∀ p ∈ f.fields, _))

variable {f g : FingerprintFields}

theorem bytes_eq_iff (hf : f.AllMeasured) (hg : g.AllMeasured) :
    f.bytes = g.bytes ↔ f.kind = g.kind ∧ f.fields.Perm g.fields := by
  have sorted : f.fields.mergeSort fieldLe = g.fields.mergeSort fieldLe ↔ f.fields.Perm g.fields :=
    mergeSort_eq_iff fieldLe_trans fieldLe_total fieldLe_antisymm
  rw [← sorted]
  refine ⟨fun same => ?_, fun ⟨kind, fields⟩ => by rw [bytes, bytes, kind, fields]⟩
  have kind : f.kind = g.kind := kind_of_name same
  rw [bytes, bytes, kind] at same
  exact ⟨kind, delimits_fieldBytes.flatMap_inj fieldBytes_ne_nil (fun p hp => hf p (List.mem_mergeSort.mp hp))
    (fun p hp => hg p (List.mem_mergeSort.mp hp)) (List.append_cancel_left same)⟩

end FingerprintFields

end StoreAccess
