import Breadcrumb.Machine.Words

/-!
An event register: events set bits, bits stay set until a one is written to
them, and a program polls until a bit of its mask comes up. Bits outside the
mask that were left behind do not change when such a loop ends, nor on which
bits of the mask.
-/

namespace Breadcrumb.Machine

variable {w : Nat}

/-- What successive reads return when the listed events come up before them. -/
def readings : BitVec w → List (BitVec w) → List (BitVec w)
  | _, [] => []
  | reg, event :: events => (reg ||| event) :: readings (reg ||| event) events

/-- The reading that ends `while (!((word = read()) & mask))`. -/
def firstHit (mask : BitVec w) : List (BitVec w) → Option (BitVec w)
  | [] => none
  | word :: words => if word &&& mask ≠ 0 then some word else firstHit mask words

/-- Writing ones clears the bits they stand on. -/
def clearOnes (reg ones : BitVec w) : BitVec w := reg &&& ~~~ones

theorem or_and_of_clear {reg other mask : BitVec w} (h : reg &&& mask = 0) :
    (reg ||| other) &&& mask = other &&& mask := by
  rw [BitVec.and_or_distrib_right, h]
  exact BitVec.zero_or

theorem or_and_ne_zero {word other mask : BitVec w} (h : word &&& mask ≠ 0) :
    (word ||| other) &&& mask ≠ 0 := by
  intro hzero
  apply h
  rw [BitVec.and_or_distrib_right] at hzero
  exact (BitVec.or_eq_zero_iff.mp hzero).1

theorem and_groups_eq_zero {word a b : BitVec w} :
    word &&& (a ||| b) = 0 ↔ word &&& a = 0 ∧ word &&& b = 0 := by
  rw [BitVec.and_or_distrib_left]
  exact BitVec.or_eq_zero_iff

theorem clearOnes_and_self (reg ones : BitVec w) : clearOnes reg ones &&& ones = 0 := by
  rw [clearOnes, BitVec.and_assoc, BitVec.and_comm (~~~ones), BitVec.and_not_self]
  exact BitVec.and_zero

theorem clearOnes_and_disjoint {reg ones rest : BitVec w} (h : ones &&& rest = 0) :
    clearOnes reg ones &&& rest = reg &&& rest := by
  apply BitVec.eq_of_getLsbD_eq
  intro i hi
  have hbit := congrArg (BitVec.getLsbD · i) h
  simp only [clearOnes, BitVec.getLsbD_and, BitVec.getLsbD_not, hi, decide_true,
    Bool.true_and] at hbit ⊢
  cases hones : ones.getLsbD i with
  | false => simp
  | true =>
      rw [hones, Bool.true_and] at hbit
      simp [hbit]

/-- Of two groups of events, clearing one leaves what came up of the other. -/
theorem clearOnes_and_groups {reg ones rest : BitVec w} (h : ones &&& rest = 0) :
    clearOnes reg ones &&& (ones ||| rest) = reg &&& rest := by
  rw [BitVec.and_or_distrib_left, clearOnes_and_self, clearOnes_and_disjoint h]
  exact BitVec.zero_or

theorem firstHit_hits {mask word : BitVec w} {words : List (BitVec w)}
    (h : firstHit mask words = some word) : word &&& mask ≠ 0 := by
  induction words with
  | nil => cases h
  | cons first rest ih =>
      unfold firstHit at h
      split at h
      · next hfirst =>
          cases h
          exact hfirst
      · exact ih h

theorem firstHit_eq_none {mask : BitVec w} {words : List (BitVec w)} :
    firstHit mask words = none ↔ ∀ word ∈ words, word &&& mask = 0 := by
  induction words with
  | nil => simp [firstHit]
  | cons first rest ih =>
      rw [firstHit, List.forall_mem_cons, ← ih]
      split
      next hfirst => exact iff_of_false (Option.some_ne_none _) fun h => hfirst h.1
      next hfirst => exact (and_iff_right (not_not.mp hfirst)).symm

/-- A clear mask in front of the loop: it ends when it would from a register
that is clear throughout, with the leftover bits added. -/
theorem firstHit_readings_of_clear {reg mask : BitVec w} (h : reg &&& mask = 0)
    (seen : BitVec w) (events : List (BitVec w)) :
    firstHit mask (readings (reg ||| seen) events) =
      (firstHit mask (readings seen events)).map (reg ||| ·) := by
  induction events generalizing seen with
  | nil => rfl
  | cons event events ih =>
      simp only [readings, firstHit, BitVec.or_assoc, or_and_of_clear h]
      split
      · rfl
      · exact ih (seen ||| event)

end Breadcrumb.Machine
