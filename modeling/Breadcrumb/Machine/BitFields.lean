import Breadcrumb.Machine.EventRegister

/-!
Fields of a register, each under its mask. Setting one leaves those apart from
it, and the usual ways to write a flag, or to change only the upper byte of a
word, are ways of setting a field.
-/

namespace Breadcrumb.Machine

variable {w : Nat} {reg mask value field : BitVec w}

def setField (reg mask value : BitVec w) : BitVec w := clearOnes reg mask ||| (value &&& mask)

theorem setField_and_self : setField reg mask value &&& mask = value &&& mask := by
  rw [setField, or_and_of_clear (clearOnes_and_self reg mask), BitVec.and_assoc, BitVec.and_self]

theorem setField_and_apart (h : mask &&& field = 0) :
    setField reg mask value &&& field = reg &&& field := by
  have hvalue : (value &&& mask) &&& field = 0 := by
    rw [BitVec.and_assoc, h]
    exact BitVec.and_zero
  rw [setField, BitVec.or_comm, or_and_of_clear hvalue, clearOnes_and_disjoint h]

theorem setField_zero (reg mask : BitVec w) : setField reg mask 0 = reg &&& ~~~mask := by
  simp [setField, clearOnes]

theorem setField_ones (reg mask : BitVec w) : setField reg mask mask = reg ||| mask := by
  apply BitVec.eq_of_getLsbD_eq
  intro i hi
  simp only [setField, clearOnes, BitVec.getLsbD_or, BitVec.getLsbD_and, BitVec.getLsbD_not, hi]
  cases reg.getLsbD i <;> cases mask.getLsbD i <;> rfl

/-- What lies within a mask is not lost under it. -/
theorem and_and_within (h : mask &&& field = field) : mask &&& reg &&& field = reg &&& field := by
  rw [BitVec.and_comm mask, BitVec.and_assoc, h]

/-! Registers put together from fields. -/

/-- `(mask & value) | (mask & value) | …` -/
def pack (fields : List (BitVec w × BitVec w)) : BitVec w :=
  fields.foldl (fun reg f => reg ||| (f.1 &&& f.2)) 0

theorem or_field_and_apart (h : mask &&& field = 0) :
    (reg ||| (mask &&& value)) &&& field = reg &&& field := by
  have hvalue : (mask &&& value) &&& field = 0 := by
    rw [BitVec.and_comm mask, BitVec.and_assoc, h]
    exact BitVec.and_zero
  rw [BitVec.or_comm, or_and_of_clear hvalue]

theorem foldl_fields_and_apart {fields : List (BitVec w × BitVec w)}
    (h : ∀ f ∈ fields, f.1 &&& field = 0) :
    fields.foldl (fun reg f => reg ||| (f.1 &&& f.2)) reg &&& field = reg &&& field := by
  induction fields generalizing reg with
  | nil => rfl
  | cons f fields ih =>
      have hrest : ∀ g ∈ fields, g.1 &&& field = 0 := fun g hg => h g (List.mem_cons_of_mem _ hg)
      rw [List.foldl_cons, ih hrest, or_field_and_apart (h f List.mem_cons_self)]

/-- In a register of fields apart each field has its value. -/
theorem pack_and {fields : List (BitVec w × BitVec w)} {f : BitVec w × BitVec w}
    (happart : fields.Pairwise fun f g => f.1 &&& g.1 = 0) (hf : f ∈ fields) :
    pack fields &&& f.1 = f.2 &&& f.1 := by
  suffices hfold : ∀ reg : BitVec w, (∀ g ∈ fields, reg &&& g.1 = 0) →
      fields.foldl (fun reg f => reg ||| (f.1 &&& f.2)) reg &&& f.1 = f.2 &&& f.1 from
    hfold 0 fun _ _ => BitVec.zero_and
  induction fields with
  | nil => cases hf
  | cons g fields ih =>
      intro reg hclear
      obtain ⟨hg, hrest⟩ := List.pairwise_cons.mp happart
      rcases List.mem_cons.mp hf with rfl | hmem
      · have hbehind : ∀ g ∈ fields, g.1 &&& f.1 = 0 := fun g hmem =>
          (BitVec.and_comm _ _).trans (hg g hmem)
        refine (foldl_fields_and_apart hbehind).trans ?_
        rw [or_and_of_clear (hclear f List.mem_cons_self), BitVec.and_comm f.1, BitVec.and_assoc,
          BitVec.and_self]
      · apply ih hrest hmem
        intro r hr
        rw [or_field_and_apart (hg r hr)]
        exact hclear r (List.mem_cons_of_mem _ hr)

/-- A field read out of a register. -/
def readField (v : Nat) (reg mask : BitVec w) (shift : Nat) : BitVec v :=
  ((reg &&& mask) >>> shift).setWidth v

theorem readField_eq {v shift : Nat} {x : BitVec v} (k : Nat) (hlt : x.toNat < 2 ^ k)
    (hroom : k + shift ≤ w) (hfit : x.setWidth w <<< shift &&& mask = x.setWidth w <<< shift)
    (h : reg &&& mask = x.setWidth w <<< shift &&& mask) : readField v reg mask shift = x := by
  have hwide : x.toNat < 2 ^ w :=
    Nat.lt_of_lt_of_le hlt (Nat.pow_le_pow_right (by decide) (by omega))
  have hshift : x.toNat * 2 ^ shift < 2 ^ w := by
    refine Nat.lt_of_lt_of_le (Nat.mul_lt_mul_of_pos_right hlt (Nat.two_pow_pos shift)) ?_
    rw [← Nat.pow_add]
    exact Nat.pow_le_pow_right (by decide) hroom
  apply BitVec.eq_of_toNat_eq
  rw [readField, h, hfit, BitVec.toNat_setWidth, BitVec.toNat_ushiftRight, BitVec.toNat_shiftLeft,
    BitVec.toNat_setWidth, Nat.mod_eq_of_lt hwide, Nat.shiftLeft_eq, Nat.mod_eq_of_lt hshift,
    Nat.shiftRight_eq_div_pow, Nat.mul_div_cancel _ (Nat.two_pow_pos shift),
    Nat.mod_eq_of_lt x.isLt]

/-- A value below the width of its field fits it. -/
theorem field_fits {v shift : Nat} {x : BitVec v} (k : Nat) (hlt : x.toNat < 2 ^ k)
    (hmask : ∀ i < k, mask.getLsbD (shift + i) = true) :
    x.setWidth w <<< shift &&& mask = x.setWidth w <<< shift := by
  apply BitVec.eq_of_getLsbD_eq
  intro i hi
  rw [BitVec.getLsbD_and]
  rcases Nat.lt_or_ge i shift with hlow | hhigh
  · simp [hlow]
  · rcases Nat.lt_or_ge (i - shift) k with hin | hout
    · have hbit := hmask _ hin
      rw [Nat.add_sub_cancel' hhigh] at hbit
      rw [hbit, Bool.and_true]
    · have hbit : x.getLsbD (i - shift) = false := by
        rw [← BitVec.testBit_toNat]
        apply Nat.testBit_lt_two_pow
        exact Nat.lt_of_lt_of_le hlt (Nat.pow_le_pow_right (by decide) hout)
      simp [hbit]

/-- A small value does not reach a mask above it. -/
theorem and_eq_zero_of_lt {x : BitVec w} (k : Nat) (hlt : x.toNat < 2 ^ k)
    (hmask : ∀ i < k, mask.getLsbD i = false) : x &&& mask = 0 := by
  apply BitVec.eq_of_getLsbD_eq
  intro i hi
  rw [BitVec.getLsbD_and]
  rcases Nat.lt_or_ge i k with hlow | hhigh
  · simp [hmask i hlow]
  · have hbit : x.getLsbD i = false := by
      rw [← BitVec.testBit_toNat]
      apply Nat.testBit_lt_two_pow
      exact Nat.lt_of_lt_of_le hlt (Nat.pow_le_pow_right (by decide) hhigh)
    simp [hbit]

/-! Fields below a bit. -/

theorem getLsbD_of_ushiftRight_eq_zero {n i : Nat} (h : mask >>> n = 0) (hi : n ≤ i) :
    mask.getLsbD i = false := by
  have hbit := congrArg (BitVec.getLsbD · (i - n)) h
  simpa [Nat.add_sub_cancel' hi] using hbit

theorem setField_ushiftRight {n : Nat} (h : mask >>> n = 0) :
    setField reg mask value >>> n = reg >>> n := by
  apply BitVec.eq_of_getLsbD_eq
  intro i hi
  have hmask := getLsbD_of_ushiftRight_eq_zero h (Nat.le_add_right n i)
  simp only [setField, clearOnes, BitVec.getLsbD_ushiftRight, BitVec.getLsbD_or,
    BitVec.getLsbD_and, BitVec.getLsbD_not, hmask]
  by_cases hin : n + i < w
  · simp [hin]
  · simp [BitVec.getLsbD_of_ge _ _ (Nat.le_of_not_lt hin)]

theorem shiftLeft_and_eq_zero {n : Nat} (h : mask >>> n = 0) (reg : BitVec w) :
    reg <<< n &&& mask = 0 := by
  apply BitVec.eq_of_getLsbD_eq
  intro i hi
  by_cases hlow : i < n
  · simp [hlow]
  · simp [getLsbD_of_ushiftRight_eq_zero h (Nat.le_of_not_lt hlow)]

/-! The upper byte of a word by itself. -/

theorem lowerBytes_getLsbD {i : Nat} (hi : i < 32) : lowerBytes.getLsbD i = decide (i < 24) := by
  revert i
  decide

theorem clear_lower {flag : BitVec 32} (h : flag &&& lowerBytes = 0) {i : Nat} (hi : i < 24) :
    flag.getLsbD i = false := by
  have hbit := congrArg (BitVec.getLsbD · i) h
  simpa [lowerBytes_getLsbD (show i < 32 by omega), hi] using hbit

theorem top_byte_or {flag : BitVec 32} (h : flag &&& lowerBytes = 0) (reg : BitVec 32) :
    (reg &&& lowerBytes) |||
      (((reg >>> 24).setWidth 8 ||| (flag >>> 24).setWidth 8).setWidth 32 <<< 24) =
        reg ||| flag := by
  apply BitVec.eq_of_getLsbD_eq
  intro i hi
  simp only [BitVec.getLsbD_or, BitVec.getLsbD_and, BitVec.getLsbD_shiftLeft,
    BitVec.getLsbD_setWidth, BitVec.getLsbD_ushiftRight, lowerBytes_getLsbD hi, hi]
  by_cases hlow : i < 24
  · simp [hlow, clear_lower h hlow]
  · simp [hlow, show i - 24 < 32 by omega, show i - 24 < 8 by omega,
      show 24 + (i - 24) = i by omega]

theorem top_byte_and_not {flag : BitVec 32} (h : flag &&& lowerBytes = 0) (reg : BitVec 32) :
    (reg &&& lowerBytes) |||
      (((reg >>> 24).setWidth 8 &&& ~~~(flag >>> 24).setWidth 8).setWidth 32 <<< 24) =
        reg &&& ~~~flag := by
  apply BitVec.eq_of_getLsbD_eq
  intro i hi
  simp only [BitVec.getLsbD_or, BitVec.getLsbD_and, BitVec.getLsbD_shiftLeft, BitVec.getLsbD_not,
    BitVec.getLsbD_setWidth, BitVec.getLsbD_ushiftRight, lowerBytes_getLsbD hi, hi]
  by_cases hlow : i < 24
  · simp [hlow, clear_lower h hlow]
  · simp [hlow, show i - 24 < 32 by omega, show i - 24 < 8 by omega,
      show 24 + (i - 24) = i by omega]

end Breadcrumb.Machine
