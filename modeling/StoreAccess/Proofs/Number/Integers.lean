import StoreAccess.Proofs.Number.Literals

/-! Integers that were written are read again, by the types that hold them. -/

namespace StoreAccess
namespace IntLiteral

variable {signed : Bool} {n : Int}

/-- What is written of a number is a literal of it, unless it takes a sign that there is not. -/
theorem denotes_intText (signs : n < 0 → signed = true) : Denotes signed (intText n) n := by
  have digits (m : Nat) : ∀ c ∈ natText m, c.isDigit = true :=
    fun c there => (isDigit_eq c).symm.trans (isDigit_of_mem_natText there)
  have value (m : Nat) : Nat.ofDigitChars 10 (natText m) 0 = m := Nat.ofDigitChars_ten_toDigits
  by_cases negative : n < 0
  · have literal := Denotes.intro (.minus (signs negative)) (digits n.natAbs) (natText_ne_nil n.natAbs)
    rw [intText, if_pos negative]
    rwa [value, Int.ofNat_eq_natCast, show -(n.natAbs : Int) = n by omega] at literal
  · have literal := Denotes.intro (@Sign.none signed) (digits n.natAbs) (natText_ne_nil n.natAbs)
    rw [intText, if_neg negative]
    rwa [value, Int.ofNat_eq_natCast, show (n.natAbs : Int) = n by omega] at literal

/-- Why a number outside a type is not read. A minus is none of the signs that types without one have. -/
def outside (t : IntType) (n : Int) : Fault :=
  if n < 0 ∧ t.isSigned = false then .malformed else .outOfRange

/-- A number that was written is read as itself by each type that holds it, and by no other. -/
theorem readNarrow_intText (t : IntType) (n : Int) :
    readNarrow t (intText n) = if t.holds n then .ok n else .error (outside t n) := by
  by_cases unsigned : n < 0 ∧ t.isSigned = false
  · have holdsNot : ¬t.holds n = true := by
      rw [IntType.holds_iff, IntType.lowest_of_unsigned unsigned.2]
      omega
    rw [if_neg holdsNot, outside, if_pos unsigned, readNarrow_eq, intText, if_pos unsigned.1, read,
      IntType.isSigned_widest, unsigned.2]
    rfl
  · rw [outside, if_neg unsigned]
    refine readNarrow_literal (denotes_intText fun negative => ?_)
    exact Bool.not_eq_false _ ▸ fun none => unsigned ⟨negative, none⟩

end IntLiteral

end StoreAccess
