import StoreAccess.Proofs.Bind.Sequences
import Mathlib.Algebra.Group.Nat.Defs
import Mathlib.Logic.Function.Iterate

/-! Room in sequences. A sequence grows only when it is full, and then by the policy, whatever is appended and whether
    or not all of it is bound. So it has the first of the capacities that the policy goes through that holds its
    elements. -/

namespace StoreAccess

variable {α : Type} {t : RowTarget α} {options : BinderOptions}

namespace Sequence

variable {s s₀ : Sequence α} {start : Nat}

/-! ### The policy -/

theorem lt_nextCapacity (capacity : Nat) : capacity < nextCapacity capacity := by
  simp only [nextCapacity]
  split <;> omega

/-- The policy in machine words, whose sums are taken modulo `2 ^ w`. -/
def nextCapacityWord {w : Nat} (capacity : BitVec w) : BitVec w :=
  let grown := capacity + capacity / 2
  if grown < 4 then 4 else grown

theorem toNat_nextCapacityWord {w : Nat} (wide : 3 ≤ w) {c : BitVec w} (signed : c.toNat < 2 ^ (w - 1)) :
    (nextCapacityWord c).toNat = nextCapacity c.toNat := by
  have halves : 2 ^ (w - 1) + 2 ^ (w - 1) = 2 ^ w := Nat.two_pow_pred_add_two_pow_pred (by omega)
  have eight : 2 ^ 3 ≤ 2 ^ w := Nat.pow_le_pow_right (by decide) wide
  have two : (2 : BitVec w).toNat = 2 := (BitVec.toNat_ofNat 2 w).trans (Nat.mod_eq_of_lt (by omega))
  have four : (4 : BitVec w).toNat = 4 := (BitVec.toNat_ofNat 4 w).trans (Nat.mod_eq_of_lt (by omega))
  -- A signed number and its half stay below the modulus, which is twice the bound of signed numbers.
  have sum : (c + c / 2).toNat = c.toNat + c.toNat / 2 := by
    rw [BitVec.toNat_add, BitVec.toNat_udiv, two]
    exact Nat.mod_eq_of_lt (by omega)
  simp only [nextCapacityWord, nextCapacity, BitVec.lt_def, sum, four]
  split
  · exact four
  · exact sum

/-- Makes room for so many more elements and for no other, unless there is room for them. -/
def reserveExact (s : Sequence α) (more : Nat) : Sequence α :=
  if s.capacity - s.length < more then { s with capacity := s.length + more } else s

/-- A full sequence gets the room that the policy has beyond its elements. -/
theorem reserve_eq (s : Sequence α) :
    s.reserve = if s.length = s.capacity then s.reserveExact (nextCapacity s.capacity - s.length) else s := by
  have grows := lt_nextCapacity s.capacity
  rw [reserve]
  split
  · rename_i full
    rw [reserveExact, if_pos (by omega), Nat.add_sub_of_le (by omega)]
  · rfl

theorem length_lt_capacity_reserve (fits : s.length ≤ s.capacity) : s.length < s.reserve.capacity := by
  rw [reserve]
  split
  · rename_i full
    exact full ▸ lt_nextCapacity s.capacity
  · omega

/-! ### Growing -/

/-- The first of a capacity and of those that come of growing it again and again that is enough. -/
def FirstFitting (start needed capacity : Nat) : Prop :=
  ∃ times, capacity = nextCapacity^[times] start ∧ needed ≤ capacity ∧
    ∀ fewer < times, nextCapacity^[fewer] start < needed

theorem FirstFitting.reserve_push (fitting : FirstFitting start s.length s.capacity) (x : α) :
    FirstFitting start (s.length + 1) (s.reserve.push x).capacity := by
  obtain ⟨times, reached, fits, short⟩ := fitting
  rw [capacity_push, reserve]
  split
  · rename_i full
    have grows := lt_nextCapacity s.capacity
    -- The capacity was enough without the new element and is not with it, so the next one is the first.
    refine ⟨times + 1, ?_, full ▸ grows, fun fewer below => ?_⟩
    · rw [Function.iterate_succ_apply', ← reached]
    · rcases Nat.lt_succ_iff_lt_or_eq.mp below with before | rfl
      · exact Nat.lt_succ_of_lt (short fewer before)
      · rw [← reached, ← full]
        exact Nat.lt_succ_self s.length
  · rename_i room
    exact ⟨times, reached, Nat.lt_of_le_of_ne fits room, fun fewer below => Nat.lt_succ_of_lt (short fewer below)⟩

/-- The sequence has come from another one by appending, and has grown no more than it had to. -/
structure GrownFrom (s₀ s : Sequence α) : Prop where
  kept : ∃ appended, s.items = s₀.items ++ appended
  fitting : FirstFitting s₀.capacity s.length s.capacity

theorem GrownFrom.refl (fits : s.length ≤ s.capacity) : GrownFrom s s :=
  ⟨⟨[], (List.append_nil s.items).symm⟩, 0, rfl, fits, fun fewer below => absurd below (Nat.not_lt_zero fewer)⟩

theorem GrownFrom.reserve_push (grown : GrownFrom s₀ s) (x : α) : GrownFrom s₀ (s.reserve.push x) := by
  obtain ⟨⟨appended, items⟩, fitting⟩ := grown
  have length : (s.reserve.push x).length = s.length + 1 := by
    rw [Sequence.length, items_push, items_reserve, List.length_append]
    rfl
  refine ⟨⟨appended ++ [x], ?_⟩, length ▸ fitting.reserve_push x⟩
  rw [items_push, items_reserve, items, List.append_assoc]

end Sequence

namespace Binder

open Sequence (GrownFrom FirstFitting nextCapacity nextCapacityWord)

variable {s₀ s : Sequence α}

theorem grownFrom_appendRows {columns : List Column} {rows : List Row} (grown : GrownFrom s₀ s) :
    GrownFrom s₀ (appendRows t options columns rows s).1 := by
  induction rows generalizing s with
  | nil => exact grown
  | cons row rows ih =>
    rw [appendRows]
    rcases t.bindRow columns row options t.initial with ⟨x, fault | done⟩
    · exact grown.reserve_push x
    · exact ih (grown.reserve_push x)

/-- Appends results one after the other, each by options of its own, whatever came of those before. -/
def appendAll (t : RowTarget α) (calls : List (BinderOptions × Table)) (s : Sequence α) : Sequence α :=
  calls.foldl (fun s call => (bindAll t call.1 call.2 s).target) s

theorem grownFrom_appendAll {calls : List (BinderOptions × Table)} (grown : GrownFrom s₀ s) :
    GrownFrom s₀ (appendAll t calls s) := by
  induction calls generalizing s with
  | nil => exact grown
  | cons call calls ih =>
    refine ih ?_
    show GrownFrom s₀ (bindAll t call.1 call.2 s).target
    rw [(bindAll_eq t call.1 call.2 s).1]
    exact grownFrom_appendRows grown

/-- However often results are appended to a sequence, and whether or not all their rows are bound, its elements stay,
    and of the capacities that the policy leads to from the one it had it has the first that is enough. Computed in
    words the policy is the same, for every capacity that is a signed number: it comes to a larger capacity, so that
    the room to be added is a number too, and a full sequence has room again. -/
theorem capacity_follows_policy :
    (∀ {α : Type} (t : RowTarget α) (calls : List (BinderOptions × Table)) (s : Sequence α), s.length ≤ s.capacity →
      ∃ appended, (appendAll t calls s).items = s.items ++ appended ∧
        FirstFitting s.capacity (s.length + appended.length) (appendAll t calls s).capacity) ∧
    (∀ {w : Nat} (c : BitVec w), 3 ≤ w → c.toNat < 2 ^ (w - 1) →
      (nextCapacityWord c).toNat = nextCapacity c.toNat ∧ c < nextCapacityWord c ∧
        (nextCapacityWord c - c).toNat = nextCapacity c.toNat - c.toNat) ∧
    ∀ {α : Type} (s : Sequence α), s.length ≤ s.capacity → s.length < s.reserve.capacity ∧
      s.reserve = if s.length = s.capacity then s.reserveExact (nextCapacity s.capacity - s.length) else s := by
  refine ⟨fun t calls s fits => ?_, fun c wide signed => ?_, fun s fits => ⟨?_, ?_⟩⟩
  · obtain ⟨⟨appended, items⟩, fitting⟩ := grownFrom_appendAll (GrownFrom.refl fits)
    have length : (appendAll t calls s).length = s.length + appended.length := by
      rw [Sequence.length, items, List.length_append]
      rfl
    exact ⟨appended, items, length ▸ fitting⟩
  · have same := Sequence.toNat_nextCapacityWord wide signed
    have more : c < nextCapacityWord c := by
      rw [BitVec.lt_def, same]
      exact Sequence.lt_nextCapacity c.toNat
    exact ⟨same, more, by rw [BitVec.toNat_sub_of_le (BitVec.le_of_lt more), same]⟩
  · exact s.length_lt_capacity_reserve fits
  · exact s.reserve_eq

/-- Two elements of a result whose second row fails, and three of another one: the capacities are zero, four and six.
    The greatest capacity in words of 64 bits has a larger one. -/
theorem capacity_after_failed_row :
    let numbers (raws : List String) : Table :=
      ⟨[⟨"n", "INT"⟩], raws.map fun raw => Row.ofList [("n", some raw)]⟩
    let calls := [(.default, numbers ["1", "x", "2"]), (.default, numbers ["3", "4", "5"])]
    let s := appendAll .map calls (.withCapacity 0)
    FirstFitting 0 5 s.capacity ∧ s.capacity = 6 ∧
      (nextCapacityWord (9223372036854775807 : BitVec 64)).toNat = 13835058055282163710 ∧
      Sequence.length (.withCapacity 4 : Sequence Nat) <
        (Sequence.reserve (.withCapacity 4 : Sequence Nat)).capacity := by
  intro numbers calls s
  obtain ⟨policy, words, room⟩ := capacity_follows_policy
  obtain ⟨appended, items, fitting⟩ := policy .map calls (.withCapacity 0) (Nat.le_refl 0)
  have five : appended.length = 5 := by
    have length := congrArg List.length items
    rw [List.length_append, show s.items.length = 5 by decide +kernel] at length
    exact (Nat.zero_add _).symm.trans length.symm
  rw [five] at fitting
  exact ⟨fitting, by decide +kernel, (words _ (by decide) (by decide)).1, (room _ (by decide)).1⟩

end Binder

end StoreAccess
