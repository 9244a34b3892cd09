import Mathlib.Algebra.Group.Int.Defs
import Mathlib.Algebra.Group.Nat.Defs
import Mathlib.Tactic.Common

/-!
# Integers as machine words

The signed word of 32 bits that an integer is, if it is small enough for one, and what is
left of it as an unsigned word or as a byte.
-/

namespace TildaMk4.Words

def word? (n : Int) : Option Int32 :=
  if -2 ^ 31 ≤ n ∧ n < 2 ^ 31 then some (Int32.ofInt n) else none

variable {n : Int} {w : Int32}

theorem word?_eq_some : word? n = some w ↔ w.toInt = n := by
  unfold word?
  split
  next fits =>
    have same := Int32.toInt_ofInt_of_le fits.1 fits.2
    constructor
    · intro given
      cases given
      exact same
    · rintro rfl
      rw [Int32.ofInt_toInt]
  next large =>
    refine ⟨nofun, ?_⟩
    rintro rfl
    exact absurd ⟨w.le_toInt, w.toInt_lt⟩ large

theorem word?_eq_none : word? n = none ↔ n < -2 ^ 31 ∨ 2 ^ 31 ≤ n := by
  unfold word?
  split
  next fits =>
    refine ⟨nofun, fun large => ?_⟩
    omega
  next large =>
    refine ⟨fun _ => ?_, fun _ => rfl⟩
    omega

theorem toNat_toUInt32 (w : Int32) : (w.toUInt32.toNat : Int) = w.toInt % 2 ^ 32 := by
  have small := w.toBitVec.isLt
  rw [← Int32.toNat_toBitVec, ← Int32.toInt_toBitVec, BitVec.toInt_eq_toNat_bmod, Int.bmod_def]
  split <;> omega

theorem toNat_toUInt8 (w : Int32) : (w.toUInt32.toUInt8.toNat : Int) = w.toInt % 2 ^ 8 := by
  have whole := toNat_toUInt32 w
  rw [UInt32.toNat_toUInt8]
  omega

end TildaMk4.Words
