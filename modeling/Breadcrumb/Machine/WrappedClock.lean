import Mathlib

/-!
Differences of wrapping clocks. Two readings of a counter are truncated to `w`
bits, subtracted, and the difference is read as a signed number: the residue of
the true difference that a signed word can hold. Where the counter started does
not matter.
-/

namespace Breadcrumb.Machine

variable {v : Nat}

/-- The difference of the low words, read as a signed number. -/
def signedDiff (w : Nat) (later earlier : BitVec v) : Int :=
  (later.setWidth w - earlier.setWidth w).toInt

/-- `x` is congruent to `d` modulo `2 ^ w`, and a signed word of `w` bits holds it. -/
structure SignedResidue (w : Nat) (x d : Int) : Prop where
  modEq : x ≡ d [ZMOD 2 ^ w]
  low : -2 ^ (w - 1) ≤ x
  high : x < 2 ^ (w - 1)

/-- Truncation commutes with the subtraction. -/
theorem signedDiff_eq_bmod (w : Nat) (later earlier : BitVec v) :
    signedDiff w later earlier = ((later.toNat : Int) - earlier.toNat).bmod (2 ^ w) := by
  rw [signedDiff, BitVec.toInt_sub, BitVec.toInt_setWidth, BitVec.toInt_setWidth,
    Int.bmod_sub_bmod, Int.sub_bmod_bmod]

theorem signedDiff_residue (w : Nat) (later earlier : BitVec v) :
    SignedResidue w (signedDiff w later earlier) (later.toNat - earlier.toNat) where
  modEq := by
    rw [signedDiff_eq_bmod, Int.ModEq]
    exact_mod_cast Int.bmod_emod
  low := BitVec.le_toInt _
  high := BitVec.toInt_lt

/-- The two readings may be taken on any other origin of the clock. -/
theorem signedDiff_add {w : Nat} (hw : w ≤ v) (later earlier offset : BitVec v) :
    signedDiff w (later + offset) (earlier + offset) = signedDiff w later earlier := by
  unfold signedDiff
  rw [BitVec.setWidth_add _ _ hw, BitVec.setWidth_add _ _ hw, add_sub_add_right_eq_sub]

end Breadcrumb.Machine
