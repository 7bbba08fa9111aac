/-! Finite maps from texts, kept in the order in which their keys first came. -/

namespace StoreAccess

structure Dict (α : Type) where
  entries : List (String × α)
  /-- A key has one value. -/
  nodup : (entries.map Prod.fst).Nodup
  deriving DecidableEq, Repr

namespace Dict

variable {α : Type}

def empty : Dict α := ⟨[], List.nodup_nil⟩

def get? (d : Dict α) (key : String) : Option α :=
  d.entries.lookup key

def contains (d : Dict α) (key : String) : Bool :=
  (d.get? key).isSome

/-- Puts a value under a key, in the place of an older one. -/
def insertInto (key : String) (value : α) : List (String × α) → List (String × α)
  | [] => [(key, value)]
  | (k, v) :: rest => if k = key then (k, value) :: rest else (k, v) :: insertInto key value rest

theorem mem_keys_insertInto {key k : String} {value : α} {l : List (String × α)} :
    k ∈ (insertInto key value l).map Prod.fst ↔ k = key ∨ k ∈ l.map Prod.fst := by
  induction l with
  | nil => simp [insertInto]
  | cons p rest ih =>
    obtain ⟨j, v⟩ := p
    by_cases hj : j = key
    · simp [insertInto, hj]
    · rw [insertInto, if_neg hj, List.map_cons, List.map_cons, List.mem_cons, List.mem_cons, ih]
      exact or_left_comm

theorem nodup_insertInto (key : String) (value : α) {l : List (String × α)} (hl : (l.map Prod.fst).Nodup) :
    ((insertInto key value l).map Prod.fst).Nodup := by
  induction l with
  | nil => simp [insertInto]
  | cons p rest ih =>
    obtain ⟨j, v⟩ := p
    obtain ⟨fresh, hrest⟩ := List.nodup_cons.mp hl
    by_cases hj : j = key
    · simpa only [insertInto, if_pos hj, List.map_cons] using hl
    · rw [insertInto, if_neg hj, List.map_cons, List.nodup_cons, mem_keys_insertInto]
      exact ⟨fun h => h.elim hj fresh, ih hrest⟩

def insert (d : Dict α) (key : String) (value : α) : Dict α :=
  ⟨insertInto key value d.entries, nodup_insertInto key value d.nodup⟩

/-- The map of a list of pairs; of two with one key the later counts. -/
def ofList (pairs : List (String × α)) : Dict α :=
  pairs.foldl (fun d p => d.insert p.1 p.2) empty

def keys (d : Dict α) : List String :=
  d.entries.map Prod.fst

def size (d : Dict α) : Nat :=
  d.entries.length

/-- The entries in ascending order of their keys. -/
def sorted (d : Dict α) : List (String × α) :=
  d.entries.mergeSort fun a b => decide (a.1 ≤ b.1)

/-- The same keys with the same values, in whatever order. -/
def same [BEq α] (a b : Dict α) : Bool :=
  a.size == b.size && a.entries.all fun p => b.get? p.1 == some p.2

theorem insertInto_of_fresh {key : String} {value : α} {l : List (String × α)} (fresh : key ∉ l.map Prod.fst) :
    insertInto key value l = l ++ [(key, value)] := by
  induction l with
  | nil => rfl
  | cons p rest ih =>
    rw [List.map_cons, List.mem_cons, not_or] at fresh
    rw [insertInto, if_neg fun same => fresh.1 same.symm, ih fresh.2]
    rfl

/-- Pairs whose keys are distinct are the entries of their map, in their order. -/
theorem entries_ofList {pairs : List (String × α)} (distinct : (pairs.map Prod.fst).Nodup) :
    (ofList pairs).entries = pairs := by
  suffices all : ∀ (l : List (String × α)) (d : Dict α), ((d.entries ++ l).map Prod.fst).Nodup →
      (l.foldl (fun d p => d.insert p.1 p.2) d).entries = d.entries ++ l from
    (all pairs empty distinct).trans (List.nil_append pairs)
  intro l
  induction l with
  | nil => exact fun d _ => (List.append_nil _).symm
  | cons p l ih =>
    intro d distinct
    have fresh : p.1 ∉ d.entries.map Prod.fst := by
      rw [List.map_append, List.nodup_append] at distinct
      exact fun there => distinct.2.2 p.1 there p.1 List.mem_cons_self rfl
    have inserted : (d.insert p.1 p.2).entries = d.entries ++ [p] := insertInto_of_fresh fresh
    rw [List.foldl_cons, ih _ (by rwa [inserted, List.append_assoc]), inserted, List.append_assoc]
    rfl

theorem lookup_insertInto (key k : String) (value : α) (l : List (String × α)) :
    (insertInto key value l).lookup k = if k = key then some value else l.lookup k := by
  induction l with
  | nil =>
    by_cases h : k = key
    · simp [insertInto, h]
    · simp [insertInto, List.lookup_cons, beq_false_of_ne h, h]
  | cons p rest ih =>
    obtain ⟨j, v⟩ := p
    by_cases hj : j = key
    · subst hj
      by_cases h : k = j
      · simp [insertInto, h]
      · simp [insertInto, List.lookup_cons, beq_false_of_ne h, h]
    · by_cases h : k = j
      · subst h; simp [insertInto, hj]
      · simp [insertInto, List.lookup_cons, beq_false_of_ne h, hj, ih]

@[simp] theorem get?_insert (d : Dict α) (key k : String) (value : α) :
    (d.insert key value).get? k = if k = key then some value else d.get? k :=
  lookup_insertInto key k value d.entries

theorem get?_foldl_of_absent {key : String} {pairs : List (String × α)} (absent : ∀ p ∈ pairs, p.1 ≠ key) (d : Dict α) :
    (pairs.foldl (fun d p => d.insert p.1 p.2) d).get? key = d.get? key := by
  induction pairs generalizing d with
  | nil => rfl
  | cons p pairs ih =>
    obtain ⟨other, others⟩ := List.forall_mem_cons.mp absent
    rw [List.foldl_cons, ih others, get?_insert, if_neg other.symm]

/-- Of the values put under one key the last is kept. -/
theorem get?_foldl_of_last {pairs : List (String × α)} {index : Nat} {p : String × α} (place : pairs[index]? = some p)
    (last : ∀ j q, index < j → pairs[j]? = some q → q.1 ≠ p.1) (d : Dict α) :
    (pairs.foldl (fun d p => d.insert p.1 p.2) d).get? p.1 = some p.2 := by
  induction pairs generalizing index d with
  | nil => cases place
  | cons head pairs ih =>
    rw [List.foldl_cons]
    cases index with
    | zero =>
      cases place
      have absent : ∀ q ∈ pairs, q.1 ≠ p.1 := by
        intro q there
        obtain ⟨j, place⟩ := List.mem_iff_getElem?.mp there
        exact last (j + 1) q (Nat.succ_pos j) place
      rw [get?_foldl_of_absent absent, get?_insert, if_pos rfl]
    | succ index => exact ih place (fun j q after place => last (j + 1) q (Nat.succ_lt_succ after) place) _

theorem get?_eq_some_iff {d : Dict α} {key : String} {value : α} :
    d.get? key = some value ↔ (key, value) ∈ d.entries := by
  obtain ⟨entries, nodup⟩ := d
  show entries.lookup key = some value ↔ (key, value) ∈ entries
  induction entries with
  | nil => simp
  | cons p rest ih =>
    obtain ⟨k, v⟩ := p
    obtain ⟨fresh, hrest⟩ := List.nodup_cons.mp nodup
    by_cases h : key = k
    · subst h
      have absent : (key, value) ∉ rest := fun hp => fresh (List.mem_map.mpr ⟨_, hp, rfl⟩)
      simp [absent, eq_comm]
    · simp [List.lookup_cons, beq_false_of_ne h, h, ih hrest]

/-- Of the values put under a key the last counts, and if there is none, the value that was there. -/
theorem get?_foldl_insert (pairs : List (String × α)) (d : Dict α) (key : String) :
    (pairs.foldl (fun d p => d.insert p.1 p.2) d).get? key = (pairs.reverse.lookup key).or (d.get? key) := by
  induction pairs generalizing d with
  | nil => rfl
  | cons p pairs ih =>
    rw [List.foldl_cons, ih, List.reverse_cons, List.lookup_append, Option.or_assoc, get?_insert]
    by_cases same : key = p.1
    · rw [if_pos same, List.lookup_cons, same, beq_self_eq_true]
      rfl
    · rw [if_neg same, List.lookup_cons, beq_false_of_ne same]
      rfl

theorem mem_keys_foldl_insert {pairs : List (String × α)} {d : Dict α} {key : String} :
    key ∈ (pairs.foldl (fun d p => d.insert p.1 p.2) d).keys ↔ key ∈ d.keys ∨ key ∈ pairs.map Prod.fst := by
  induction pairs generalizing d with
  | nil => simp
  | cons p pairs ih =>
    have inserted : key ∈ (d.insert p.1 p.2).keys ↔ key = p.1 ∨ key ∈ d.keys := mem_keys_insertInto
    rw [List.foldl_cons, ih, inserted, List.map_cons, List.mem_cons, or_assoc, or_left_comm]

theorem keys_insertInto_of_mem {key : String} {value : α} {l : List (String × α)} (there : key ∈ l.map Prod.fst) :
    (insertInto key value l).map Prod.fst = l.map Prod.fst := by
  induction l with
  | nil => cases there
  | cons p rest ih =>
    obtain ⟨k, v⟩ := p
    rw [insertInto]
    split
    · rfl
    · rename_i other
      rcases List.mem_cons.mp there with same | later
      · exact absurd same.symm other
      · rw [List.map_cons, ih later, List.map_cons]

/-- New values do not change the order of the keys. -/
theorem keys_foldl_insert_of_mem {pairs : List (String × α)} {d : Dict α} (there : ∀ p ∈ pairs, p.1 ∈ d.keys) :
    (pairs.foldl (fun d p => d.insert p.1 p.2) d).keys = d.keys := by
  induction pairs generalizing d with
  | nil => rfl
  | cons p pairs ih =>
    obtain ⟨first, others⟩ := List.forall_mem_cons.mp there
    have inserted : (d.insert p.1 p.2).keys = d.keys := keys_insertInto_of_mem first
    rw [List.foldl_cons, ih fun q later => inserted ▸ others q later, inserted]

theorem mem_sorted {d : Dict α} {p : String × α} : p ∈ d.sorted ↔ d.get? p.1 = some p.2 := by
  rw [get?_eq_some_iff, sorted, List.mem_mergeSort]

/-- As no key comes twice, the keys ascend strictly. -/
theorem pairwise_sorted (d : Dict α) : d.sorted.Pairwise fun p q => p.1 < q.1 := by
  have ascending : d.sorted.Pairwise fun p q => p.1 ≤ q.1 := by
    refine (List.pairwise_mergeSort ?_ ?_ d.entries).imp of_decide_eq_true
    · exact fun a b c ab bc => decide_eq_true (String.le_trans (of_decide_eq_true ab) (of_decide_eq_true bc))
    · intro a b
      rw [Bool.or_eq_true, decide_eq_true_eq, decide_eq_true_eq]
      exact String.le_total a.1 b.1
  have distinct : d.sorted.Pairwise fun p q => p.1 ≠ q.1 := by
    rw [← List.pairwise_map]
    exact ((List.mergeSort_perm _ _).map Prod.fst).nodup_iff.mpr d.nodup
  exact ascending.imp₂ (fun p q le ne => Std.lt_of_le_of_ne le ne) distinct

theorem map_some_entries (d : Dict α) : d.entries.map some = d.keys.map fun key => (d.get? key).map (Prod.mk key) := by
  rw [keys, List.map_map]
  refine List.map_congr_left fun p there => ?_
  rw [Function.comp_apply, get?_eq_some_iff.mpr there]
  rfl

/-- Maps with the same keys in the same order that give each key the same value are the same. -/
theorem ext_of_keys {a b : Dict α} (keys : a.keys = b.keys) (values : ∀ key, a.get? key = b.get? key) : a = b := by
  have entries : a.entries.map some = b.entries.map some := by
    rw [map_some_entries, map_some_entries, keys]
    simp only [values]
  rw [List.map_inj_right fun _ _ => Option.some.inj] at entries
  obtain ⟨_, _⟩ := a
  obtain ⟨_, _⟩ := b
  cases entries
  rfl

/-- The same pairs a second time change nothing. -/
theorem foldl_insert_again (pairs : List (String × α)) (d : Dict α) :
    pairs.foldl (fun d p => d.insert p.1 p.2) (pairs.foldl (fun d p => d.insert p.1 p.2) d) =
      pairs.foldl (fun d p => d.insert p.1 p.2) d := by
  refine ext_of_keys (keys_foldl_insert_of_mem fun p there => ?_) fun key => ?_
  · exact mem_keys_foldl_insert.mpr (Or.inr (List.mem_map_of_mem there))
  · rw [get?_foldl_insert pairs (pairs.foldl _ d), get?_foldl_insert pairs d, ← Option.or_assoc, Option.or_self]

/-- Maps that give each key the same value hold the same entries, in some order. -/
theorem perm_iff_get? {a b : Dict α} : a.entries.Perm b.entries ↔ ∀ key, a.get? key = b.get? key := by
  have entries (d : Dict α) : d.entries.Nodup :=
    List.Pairwise.of_map Prod.fst (fun _ _ ne same => ne (congrArg Prod.fst same)) d.nodup
  rw [List.perm_ext_iff_of_nodup (entries a) (entries b)]
  refine ⟨fun same key => Option.ext fun value => ?_, fun same p => ?_⟩
  · rw [get?_eq_some_iff, get?_eq_some_iff, same]
  · rw [← get?_eq_some_iff, ← get?_eq_some_iff, same]

end Dict

end StoreAccess
