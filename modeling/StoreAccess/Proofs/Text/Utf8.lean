import StoreAccess.Text.Utf8

/-! What is written of a text as bytes is read as this text. Reading goes byte by byte: the first byte of a character
    says how many are owed and bounds the next, so that no character is read from more bytes than it needs and none
    beyond the last one. -/

namespace StoreAccess
namespace Text

namespace Utf8State

variable {x bits owed low high value : Nat} {s next : Utf8State} {out : List Char}

/-! ### First bytes -/

theorem first_one (small : x ≤ 127) : first x = ([Char.ofNat x], start) :=
  if_pos small

theorem first_two (least : 2 ≤ x) (small : x < 32) : first (x + 192) = ([], ⟨1, 0x80, 0xBF, x⟩) := by
  rw [first, if_neg (by omega), if_pos ⟨by omega, by omega⟩, Nat.add_sub_cancel]

/-- The first of three bytes. It bounds the next so that two bytes would not do, and that no half of a pair is read. -/
theorem first_three (small : x < 16) :
    ∃ low high, first (x + 224) = ([], ⟨2, low, high, x⟩) ∧
      ∀ bits < 64, (x = 0 → 32 ≤ bits) → (x = 13 → bits < 32) → low ≤ bits + 128 ∧ bits + 128 ≤ high := by
  by_cases least : x = 0
  · exact ⟨0xA0, 0xBF, by rw [least]; rfl, fun bits lt enough _ => by have := enough least; omega⟩
  · by_cases halves : x = 13
    · exact ⟨0x80, 0x9F, by rw [halves]; rfl, fun bits lt _ whole => by have := whole halves; omega⟩
    · refine ⟨0x80, 0xBF, ?_, fun bits lt _ _ => by omega⟩
      rw [first, if_neg (by omega), if_neg (by omega), if_neg (by omega), if_neg (by omega),
        if_pos ⟨by omega, by omega⟩, Nat.add_sub_cancel]

/-- The first of four bytes. It bounds the next so that three bytes would not do, and that the last character is not
    exceeded. -/
theorem first_four (small : x < 5) :
    ∃ low high, first (x + 240) = ([], ⟨3, low, high, x⟩) ∧
      ∀ bits < 64, (x = 0 → 16 ≤ bits) → (x = 4 → bits < 16) → low ≤ bits + 128 ∧ bits + 128 ≤ high := by
  by_cases least : x = 0
  · exact ⟨0x90, 0xBF, by rw [least]; rfl, fun bits lt enough _ => by have := enough least; omega⟩
  · by_cases last : x = 4
    · exact ⟨0x80, 0x8F, by rw [last]; rfl, fun bits lt _ within => by have := within last; omega⟩
    · refine ⟨0x80, 0xBF, ?_, fun bits lt _ _ => by omega⟩
      rw [first, if_neg (by omega), if_neg (by omega), if_neg (by omega), if_neg (by omega), if_neg (by omega),
        if_neg (by omega), if_pos ⟨by omega, by omega⟩, Nat.add_sub_cancel]

/-! ### Continuation bytes -/

theorem step_last (bounds : low ≤ bits + 128 ∧ bits + 128 ≤ high) :
    (⟨1, low, high, value⟩ : Utf8State).step (bits + 128) = ([Char.ofNat (value * 64 + bits)], start) := by
  rw [step, if_neg Nat.one_ne_zero, if_pos bounds, Nat.add_sub_cancel]
  rfl

theorem step_inner (bounds : low ≤ bits + 128 ∧ bits + 128 ≤ high) :
    (⟨owed + 2, low, high, value⟩ : Utf8State).step (bits + 128) =
      ([], ⟨owed + 1, 0x80, 0xBF, value * 64 + bits⟩) := by
  rw [step, if_neg (Nat.succ_ne_zero _), if_pos bounds, Nat.add_sub_cancel]
  exact if_neg (Nat.succ_succ_ne_one owed)

theorem bounds_of_mod (n : Nat) : 0x80 ≤ n % 64 + 128 ∧ n % 64 + 128 ≤ 0xBF := by
  omega

/-! ### Characters -/

theorem read_next (stepped : s.step x = (out, next)) (small : x < 256) (rest : List UInt8) :
    s.read (UInt8.ofNat x :: rest) = out ++ next.read rest := by
  rw [read, UInt8.toNat_ofNat', Nat.mod_eq_of_lt small, stepped]

theorem read_first (lead : first x = (out, next)) (small : x < 256) (rest : List UInt8) :
    start.read (UInt8.ofNat x :: rest) = out ++ next.read rest :=
  read_next (s := start) (show start.step x = _ from lead) small rest

/-- The bytes of a character are read as this character, whatever follows. -/
theorem read_utf8EncodeChar (c : Char) (rest : List UInt8) :
    start.read (String.utf8EncodeChar c ++ rest) = c :: start.read rest := by
  obtain ⟨v, code⟩ : ∃ v, c.val.toNat = v := ⟨_, rfl⟩
  have char : Char.ofNat v = c := code ▸ Char.ofNat_toNat c
  have valid : v < 0xD800 ∨ 0xDFFF < v ∧ v < 0x110000 := code ▸ c.valid
  simp only [String.utf8EncodeChar, code]
  rw [← char]
  -- One case for each number of bytes. The first byte bounds the second, and all others are bounded alike.
  split
  · rename_i one
    exact read_first (first_one one) (by omega) rest
  · split
    · have whole : v / 64 % 32 * 64 + v % 64 = v := by omega
      have lead := first_two (x := v / 64 % 32) (by omega) (by omega)
      have last := bounds_of_mod v
      rw [List.cons_append, List.cons_append, List.nil_append, read_first lead (by omega),
        read_next (step_last last) (by omega), whole]
      rfl
    · split
      · have whole : (v / 4096 % 16 * 64 + v / 64 % 64) * 64 + v % 64 = v := by omega
        obtain ⟨low, high, lead, bounds⟩ := first_three (x := v / 4096 % 16) (by omega)
        have inner := bounds (v / 64 % 64) (by omega) (by omega) (by omega)
        have last := bounds_of_mod v
        rw [List.cons_append, List.cons_append, List.cons_append, List.nil_append, read_first lead (by omega),
          read_next (step_inner inner) (by omega), read_next (step_last last) (by omega), whole]
        rfl
      · have whole : ((v / 262144 % 8 * 64 + v / 4096 % 64) * 64 + v / 64 % 64) * 64 + v % 64 = v := by omega
        obtain ⟨low, high, lead, bounds⟩ := first_four (x := v / 262144 % 8) (by omega)
        have second := bounds (v / 4096 % 64) (by omega) (by omega) (by omega)
        have third := bounds_of_mod (v / 64)
        have last := bounds_of_mod v
        rw [List.cons_append, List.cons_append, List.cons_append, List.cons_append, List.nil_append,
          read_first lead (by omega), read_next (step_inner second) (by omega), read_next (step_inner third) (by omega),
          read_next (step_last last) (by omega), whole]
        rfl

end Utf8State

/-! ### Texts -/

theorem ofUtf8_utf8 (s : String) : ofUtf8 (utf8 s) = s := by
  suffices all : ∀ cs : List Char, Utf8State.start.read (cs.flatMap String.utf8EncodeChar) = cs by
    rw [ofUtf8, utf8, all, String.ofList_toList]
  intro cs
  induction cs with
  | nil => rfl
  | cons c cs ih => rw [List.flatMap_cons, Utf8State.read_utf8EncodeChar, ih]

theorem ofUtf8?_eq_some_iff {bytes : List UInt8} {s : String} : ofUtf8? bytes = some s ↔ utf8 s = bytes := by
  constructor
  · intro read
    simp only [ofUtf8?, Option.ite_none_right_eq_some, Option.some.injEq] at read
    exact read.2 ▸ read.1
  · rintro rfl
    rw [ofUtf8?, ofUtf8_utf8]
    exact if_pos rfl

end Text
end StoreAccess
