/-! Actions that may fail, one after the other. They succeed if each of them does, and else come to the first that
    fails: for two actions, for the members of a list, and for members that each give a value. -/

namespace StoreAccess

variable {α β ε ε' : Type}

/-! ### Two actions -/

theorem Except.bind_eq_ok_iff {x : Except ε Unit} {y : Except ε α} {a : α} :
    (x >>= fun _ => y) = .ok a ↔ x = .ok () ∧ y = .ok a := by
  cases x with
  | error e => exact ⟨fun failed => (by cases failed), fun both => (by cases both.1)⟩
  | ok u => exact ⟨fun passed => ⟨rfl, passed⟩, And.right⟩

theorem Except.bind_eq_error_iff {x : Except ε Unit} {y : Except ε α} :
    (x >>= fun _ => y) = .error e ↔ x = .error e ∨ x = .ok () ∧ y = .error e := by
  cases x with
  | error e' =>
    refine ⟨fun failed => Or.inl ?_, fun either => ?_⟩
    · cases failed
      rfl
    · rcases either with failed | ⟨passed, -⟩
      · cases failed
        rfl
      · cases passed
  | ok u =>
    refine ⟨fun failed => Or.inr ⟨rfl, failed⟩, fun either => ?_⟩
    rcases either with failed | ⟨-, failed⟩
    · cases failed
    · exact failed

theorem Except.mapError_eq_ok_iff {g : ε → ε'} {x : Except ε α} {a : α} : x.mapError g = .ok a ↔ x = .ok a := by
  cases x with
  | error e => exact ⟨fun passed => (by cases passed), fun passed => (by cases passed)⟩
  | ok b => exact ⟨fun passed => (by cases passed; rfl), fun passed => (by cases passed; rfl)⟩

theorem Except.mapError_eq_error_iff {g : ε → ε'} {x : Except ε α} {e' : ε'} :
    x.mapError g = .error e' ↔ ∃ e, x = .error e ∧ g e = e' := by
  cases x with
  | error e =>
    constructor
    · rintro ⟨⟩
      exact ⟨e, rfl, rfl⟩
    · rintro ⟨_, ⟨⟩, rfl⟩
      rfl
  | ok a =>
    constructor
    · rintro ⟨⟩
    · rintro ⟨_, ⟨⟩, -⟩

theorem Except.map_eq_error_iff {g : α → β} {x : Except ε α} : x.map g = .error e ↔ x = .error e := by
  cases x with
  | error e' => exact ⟨fun failed => (by cases failed; rfl), fun failed => (by cases failed; rfl)⟩
  | ok a => exact ⟨fun failed => (by cases failed), fun failed => (by cases failed)⟩

theorem Except.map_unit_eq_ok_iff {x : Except ε α} : (x.map fun _ => ()) = .ok () ↔ ∃ a, x = .ok a := by
  cases x with
  | error e => exact ⟨fun passed => (by cases passed), fun ⟨a, passed⟩ => (by cases passed)⟩
  | ok a => exact ⟨fun _ => ⟨a, rfl⟩, fun _ => rfl⟩

theorem exists_of_map_eq_ok {f : α → β} {x : Except ε α} {b : β} (ok : x.map f = .ok b) : ∃ a, x = .ok a ∧ f a = b := by
  cases x with
  | error e => cases ok
  | ok a => exact ⟨a, rfl, Except.ok.inj ok⟩

theorem exists_of_elim_eq_ok {f : α → β} {x : Option α} {e : ε} {b : β}
    (ok : (x.elim (Except.error e) fun a => .ok (f a)) = .ok b) : ∃ a, x = some a ∧ f a = b := by
  cases x with
  | none => cases ok
  | some a => exact ⟨a, rfl, Except.ok.inj ok⟩

theorem Except.mapError_bind (g : ε → ε') (x : Except ε α) (f : α → Except ε β) :
    (x >>= f).mapError g = x.mapError g >>= fun a => (f a).mapError g := by
  cases x <;> rfl

/-! ### An action for each member of a list -/

section
variable {f : α → Except ε Unit} {l : List α} {e : ε}

theorem forM_eq_ok_iff : forM l f = .ok () ↔ ∀ x ∈ l, f x = .ok () := by
  induction l with
  | nil => exact ⟨fun _ x there => (by cases there), fun _ => rfl⟩
  | cons x l ih => rw [List.forM_cons, Except.bind_eq_ok_iff, ih, List.forall_mem_cons]

/-- The error is that of the first that fails; what comes after it does not count. -/
theorem forM_eq_error_iff : forM l f = .error e ↔
    ∃ before x after, l = before ++ x :: after ∧ (∀ y ∈ before, f y = .ok ()) ∧ f x = .error e := by
  induction l with
  | nil =>
    refine ⟨fun failed => (by cases failed), ?_⟩
    rintro ⟨before, x, after, split, -⟩
    exact absurd split.symm (List.append_ne_nil_of_right_ne_nil before (List.cons_ne_nil x after))
  | cons x l ih =>
    rw [List.forM_cons, Except.bind_eq_error_iff, ih]
    constructor
    · rintro (failed | ⟨passed, before, y, after, rfl, earlier, failed⟩)
      · exact ⟨[], x, l, rfl, fun y there => (by cases there), failed⟩
      · exact ⟨x :: before, y, after, rfl, List.forall_mem_cons.mpr ⟨passed, earlier⟩, failed⟩
    · rintro ⟨before, y, after, split, earlier, failed⟩
      cases before with
      | nil =>
        cases split
        exact Or.inl failed
      | cons z before =>
        cases split
        obtain ⟨passed, earlier⟩ := List.forall_mem_cons.mp earlier
        exact Or.inr ⟨passed, before, y, after, rfl, earlier, failed⟩

/-- In a list in order the error is that of the first that fails in this order. -/
theorem forM_eq_error_iff_of_pairwise {before : α → α → Prop} (ordered : l.Pairwise before)
    (asymm : ∀ x y, before x y → ¬ before y x) :
    forM l f = .error e ↔ ∃ x ∈ l, f x = .error e ∧ ∀ y ∈ l, before y x → f y = .ok () := by
  rw [forM_eq_error_iff]
  constructor
  · rintro ⟨earlier, x, later, rfl, passed, failed⟩
    obtain ⟨-, fromX, -⟩ := List.pairwise_append.mp ordered
    have behind := (List.pairwise_cons.mp fromX).1
    -- What stands behind `x` in the list does not come before it in the order.
    refine ⟨x, by simp, failed, fun y there first => ?_⟩
    rcases List.mem_append.mp there with early | late
    · exact passed y early
    · rcases List.mem_cons.mp late with rfl | late
      · exact absurd first (asymm y y first)
      · exact absurd first (asymm x y (behind y late))
  · rintro ⟨x, there, failed, passed⟩
    obtain ⟨earlier, later, rfl⟩ := List.append_of_mem there
    obtain ⟨-, -, across⟩ := List.pairwise_append.mp ordered
    refine ⟨earlier, x, later, rfl, fun y early => ?_, failed⟩
    exact passed y (List.mem_append_left _ early) (across y early x List.mem_cons_self)

theorem forM_flatMap (parts : List β) (g : β → List α) :
    (forM parts fun part => forM (g part) f) = forM (parts.flatMap g) f := by
  induction parts with
  | nil => rfl
  | cons part parts ih => rw [List.forM_cons, ih, List.flatMap_cons, List.forM_append]

/-- Actions one after the other come to what the first of them comes to that does not succeed. -/
theorem forM_eq_elim (f : α → Except ε Unit) (l : List α) :
    forM l f = (l[l.findIdx fun x => !(f x).isOk]?).elim (.ok ()) f := by
  induction l with
  | nil => rfl
  | cons x l ih =>
    rw [List.forM_cons, List.findIdx_cons]
    cases outcome : f x with
    | error e => exact outcome.symm
    | ok done => exact ih

end

/-! ### A value for each member of a list -/

section
variable {f : α → Option β} {l : List α}

theorem map_of_mapM : ∀ {l : List α} {l' : List β}, l.mapM f = some l' → l.map f = l'.map some
  | [], l', all => by
    cases all
    rfl
  | x :: l, l', all => by
    simp only [List.mapM_cons, Option.bind_eq_bind, Option.bind_eq_some_iff, Option.pure_def] at all
    obtain ⟨y, first, rest, others, same⟩ := all
    cases same
    rw [List.map_cons, List.map_cons, first, map_of_mapM others]

theorem exists_of_mem_mapM {l' : List β} (all : l.mapM f = some l') : ∀ y ∈ l', ∃ x ∈ l, f x = some y := by
  intro y there
  have image : some y ∈ l.map f := map_of_mapM all ▸ List.mem_map_of_mem there
  exact List.mem_map.mp image

theorem exists_mapM : ∀ {l : List α}, (∀ x ∈ l, (f x).isSome) → ∃ l', l.mapM f = some l'
  | [], _ => ⟨[], rfl⟩
  | x :: l, each => by
    obtain ⟨y, first⟩ := Option.isSome_iff_exists.mp (each x List.mem_cons_self)
    obtain ⟨l', rest⟩ := exists_mapM fun x there => each x (List.mem_cons_of_mem _ there)
    exact ⟨y :: l', by simp [List.mapM_cons, first, rest]⟩

theorem mapM_eq_none_iff : l.mapM f = none ↔ ∃ x ∈ l, f x = none := by
  induction l with
  | nil => simp
  | cons x l ih =>
    simp only [List.mapM_cons, List.mem_cons, exists_eq_or_imp, ← ih]
    cases f x with
    | none => simp
    | some y => cases l.mapM f <;> simp

end

end StoreAccess
