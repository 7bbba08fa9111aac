import Mathlib.Algebra.GroupWithZero.Nat
import Mathlib.Data.List.Forall2
import Mathlib.Data.List.Nodup
import Mathlib.Data.List.Perm.Basic

/-! Lists whatever they hold: what is found by a key or at an index, what a member counts for, reorderings, and lists
    and options whose members are related one by one. -/

/-! ### Related options and lists -/

namespace Option.Rel

variable {α β γ δ : Type} {R : α → β → Prop} {S : γ → δ → Prop} {a : Option α} {b : Option β}

theorem bind {f : α → Option γ} {g : β → Option δ} (h : Option.Rel R a b)
    (each : ∀ {x y}, R x y → Option.Rel S (f x) (g y)) : Option.Rel S (a.bind f) (b.bind g) := by
  cases h with
  | none => exact .none
  | some item => exact each item

theorem map {f : α → γ} {g : β → δ} (h : Option.Rel R a b) (each : ∀ {x y}, R x y → S (f x) (g y)) :
    Option.Rel S (a.map f) (b.map g) := by
  cases h with
  | none => exact .none
  | some item => exact .some (each item)

theorem map_eq {f : α → γ} {g : β → γ} (h : Option.Rel R a b) (each : ∀ {x y}, R x y → f x = g y) :
    a.map f = b.map g := by
  cases h with
  | none => rfl
  | some item => rw [Option.map_some, Option.map_some, each item]

theorem bind_eq {f : α → Option γ} {g : β → Option γ} (h : Option.Rel R a b)
    (each : ∀ {x y}, R x y → f x = g y) : a.bind f = b.bind g := by
  cases h with
  | none => rfl
  | some item => exact each item

end Option.Rel

namespace List.Forall₂

variable {α β : Type} {R : α → β → Prop} {l : List α} {m : List β}

theorem getElem? (h : List.Forall₂ R l m) (i : Nat) : Option.Rel R l[i]? m[i]? := by
  induction h generalizing i with
  | nil => exact .none
  | cons head _ ih =>
    cases i with
    | zero => exact .some head
    | succ i => exact ih i

theorem set {a : α} {b : β} (h : List.Forall₂ R l m) (i : Nat) (item : R a b) :
    List.Forall₂ R (l.set i a) (m.set i b) := by
  induction h generalizing i with
  | nil => exact .nil
  | cons head tail ih =>
    cases i with
    | zero => exact .cons item tail
    | succ i => exact .cons head (ih i)

theorem snoc {a : α} {b : β} (h : List.Forall₂ R l m) (item : R a b) : List.Forall₂ R (l ++ [a]) (m ++ [b]) :=
  List.rel_append h (.cons item .nil)

theorem find? {p : α → Bool} {q : β → Bool} (h : List.Forall₂ R l m) (same : ∀ {a b}, R a b → p a = q b) :
    Option.Rel R (l.find? p) (m.find? q) := by
  induction h with
  | nil => exact .none
  | @cons a b _ _ head _ ih =>
    rw [List.find?_cons, List.find?_cons, same head]
    cases q b
    · exact ih
    · exact .some head

theorem filter {p : α → Bool} {q : β → Bool} (h : List.Forall₂ R l m) (same : ∀ {a b}, R a b → p a = q b) :
    List.Forall₂ R (l.filter p) (m.filter q) :=
  List.rel_filter (fun _ _ item => iff_of_eq (congrArg (· = true) (same item))) h

theorem all_eq {p : α → Bool} {q : β → Bool} (h : List.Forall₂ R l m) (same : ∀ {a b}, R a b → p a = q b) :
    l.all p = m.all q := by
  induction h with
  | nil => rfl
  | cons head _ ih => rw [List.all_cons, List.all_cons, same head, ih]

end List.Forall₂

namespace StoreAccess

variable {α β : Type}

/-! ### Keys and places -/

theorem mem_keys_iff [BEq α] [LawfulBEq α] (l : List (α × β)) (key : α) :
    key ∈ l.map Prod.fst ↔ (l.lookup key).isSome := by
  induction l with
  | nil => simp
  | cons x l ih =>
    by_cases same : key = x.1
    · simp [same]
    · have other : (key == x.1) = false := beq_false_of_ne same
      rw [List.map_cons, List.mem_cons, ih, List.lookup_cons, other]
      simp [same]

/-- Lists of pairs are the same if their keys are and each of the one is among the other, as no key comes twice. -/
theorem eq_of_subset {l m : List (α × β)} (keys : List α) (sub : ∀ p ∈ l, p ∈ m)
    (hl : l.map Prod.fst = keys) (hm : m.map Prod.fst = keys) (distinct : keys.Nodup) : l = m := by
  induction keys generalizing l m with
  | nil => rw [List.map_eq_nil_iff.mp hl, List.map_eq_nil_iff.mp hm]
  | cons key keys ih =>
    obtain ⟨p, l', rfl, rfl, restOfL⟩ := List.map_eq_cons_iff.mp hl
    obtain ⟨q, m', rfl, -, restOfM⟩ := List.map_eq_cons_iff.mp hm
    obtain ⟨fresh, distinct⟩ := List.nodup_cons.mp distinct
    have first : p = q := by
      refine (List.mem_cons.mp (sub p List.mem_cons_self)).resolve_right fun later => fresh ?_
      exact restOfM ▸ List.mem_map_of_mem later
    have rest : l' = m' := by
      refine ih (fun r there => ?_) restOfL restOfM distinct
      refine (List.mem_cons.mp (sub r (List.mem_cons_of_mem p there))).resolve_left fun again => fresh ?_
      rw [first, ← again, ← restOfL]
      exact List.mem_map_of_mem there
    rw [first, rest]

theorem set_cases {l : List α} {i j : Nat} {x y : α} (h : (l.set i y)[j]? = some x) :
    (j = i ∧ x = y) ∨ (j ≠ i ∧ l[j]? = some x) := by
  rw [List.getElem?_set] at h
  split at h
  · split at h <;> cases h
    exact Or.inl ⟨by omega, rfl⟩
  · exact Or.inr ⟨by omega, h⟩

theorem filterMap_range (l : List α) : (List.range l.length).filterMap (fun place => l[place]?) = l := by
  induction l with
  | nil => rfl
  | cons x l ih =>
    rw [List.length_cons, List.range_succ_eq_map, List.filterMap_cons, List.filterMap_map]
    simpa using ih

/-- Where something stands in a list of one. -/
theorem eq_of_singleton {x y : α} {before after : List α} (place : [x] = before ++ y :: after) :
    before = [] ∧ x = y ∧ after = [] := by
  rcases List.cons_eq_append_iff.mp place with ⟨rfl, same⟩ | ⟨_, -, behind⟩
  · cases same
    exact ⟨rfl, rfl, rfl⟩
  · exact absurd behind.symm (by simp)

/-! ### What members count for -/

theorem sum_map_set (f : α → Nat) (b : α) : ∀ {l : List α} {i : Nat} {a : α}, l[i]? = some a →
    ((l.set i b).map f).sum + f a = (l.map f).sum + f b
  | [], i, a, h => by cases h
  | x :: l, 0, a, h => by
    cases h
    simp only [List.set_cons_zero, List.map_cons, List.sum_cons]
    omega
  | x :: l, i + 1, a, h => by
    have ih := sum_map_set f b (l := l) (i := i) h
    simp only [List.set_cons_succ, List.map_cons, List.sum_cons]
    omega

theorem count_flatMap_set [DecidableEq β] (f : α → List β) (b : α) (y : β) :
    ∀ {l : List α} {i : Nat} {a : α}, l[i]? = some a →
      ((l.set i b).flatMap f).count y + (f a).count y = (l.flatMap f).count y + (f b).count y
  | [], i, a, h => by cases h
  | x :: l, 0, a, h => by
    cases h
    simp only [List.set_cons_zero, List.flatMap_cons, List.count_append]
    omega
  | x :: l, i + 1, a, h => by
    have ih := count_flatMap_set f b y (l := l) (i := i) h
    simp only [List.set_cons_succ, List.flatMap_cons, List.count_append]
    omega

/-! ### Reorderings -/

/-- Sorting by an order of which the two sides are equal only for equal values forgets the order of a list and
    nothing else. -/
theorem mergeSort_eq_iff {le : α → α → Bool} (trans : ∀ a b c, le a b → le b c → le a c)
    (total : ∀ a b, le a b || le b a) (antisymm : ∀ {a b}, le a b → le b a → a = b) {l m : List α} :
    l.mergeSort le = m.mergeSort le ↔ l.Perm m := by
  refine ⟨fun same => ?_, fun perm => ?_⟩
  · exact (List.mergeSort_perm l le).symm.trans (same ▸ List.mergeSort_perm m le)
  · exact List.Perm.eq_of_pairwise (fun a b _ _ => antisymm) (List.pairwise_mergeSort trans total l)
      (List.pairwise_mergeSort trans total m)
      ((List.mergeSort_perm l le).trans (perm.trans (List.mergeSort_perm m le).symm))

theorem last_of_perm {l : List α} {a b : α} (perm : (l ++ [a]).Perm (l ++ [b])) : a = b :=
  List.singleton_perm_singleton.mp ((List.perm_append_left_iff l).mp perm)

/-- Of two pairs that are the same in some order, either member of the first is one of the second's. -/
theorem mem_of_pair_perm {a b c d : α} (perm : [a, b].Perm [c, d]) : (a = c ∨ a = d) ∧ (b = c ∨ b = d) := by
  simpa using And.intro (perm.mem_iff.mp (List.mem_cons_self (a := a))) (perm.mem_iff.mp (by simp : b ∈ [a, b]))

end StoreAccess
