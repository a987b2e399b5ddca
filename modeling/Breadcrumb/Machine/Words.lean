import Mathlib

/-!
Bytes of a little-endian machine. `leBytes` is what a wide register looks
like when it is read byte by byte from its lowest address, and `assemble` is
the usual loop that shifts the bytes together again, highest address first.
-/

namespace Breadcrumb.Machine

abbrev Byte := BitVec 8
abbrev Word16 := BitVec 16
abbrev Word32 := BitVec 32

def chr (c : Char) : Byte := BitVec.ofNat 8 c.toNat

/-- All of a word but its upper byte. -/
def lowerBytes : Word32 := 0x00FFFFFF

/-- The `n` low bytes of a register, lowest address first. -/
def leBytes {v : Nat} : Nat → BitVec v → List Byte
  | 0, _ => []
  | n + 1, r => r.setWidth 8 :: leBytes n (r >>> 8)

/-- `for (j = n - 1; j >= 0; j--) regval = (regval << 8) + buffer[j];` -/
def assemble (w : Nat) (bytes : List Byte) : BitVec w :=
  bytes.foldr (fun byte regval => (regval <<< 8) + byte.setWidth w) 0

@[simp] theorem leBytes_length {v : Nat} (n : Nat) (r : BitVec v) :
    (leBytes n r).length = n := by
  induction n generalizing r with
  | zero => rfl
  | succ n ih => simp [leBytes, ih]

@[simp] theorem assemble_nil (w : Nat) : assemble w [] = 0 := rfl

@[simp] theorem assemble_cons (w : Nat) (byte : Byte) (bytes : List Byte) :
    assemble w (byte :: bytes) = (assemble w bytes <<< 8) + byte.setWidth w := rfl

/-- Assembling the low bytes of a register truncates it: once to the bytes
that were read, once to the width that receives them. -/
theorem assemble_leBytes {v : Nat} (w n : Nat) (r : BitVec v) :
    assemble w (leBytes n r) = BitVec.ofNat w (r.toNat % 256 ^ n) := by
  induction n generalizing r with
  | zero => simp [leBytes, Nat.mod_one]
  | succ n ih =>
      rw [leBytes, assemble_cons, ih]
      apply BitVec.eq_of_toNat_eq
      have hsplit : r.toNat % 256 ^ (n + 1) =
          r.toNat % 256 + 256 * (r.toNat / 256 % 256 ^ n) := by
        rw [Nat.pow_succ, Nat.mul_comm, Nat.mod_mul]
      have hshift : (r >>> 8).toNat = r.toNat / 256 := by
        simp [Nat.shiftRight_eq_div_pow]
      simp [hshift, hsplit, Nat.shiftLeft_eq, Nat.add_comm, Nat.mul_comm]

/-- A register that fits its bytes and its receiver is read back unchanged. -/
theorem assemble_leBytes_self {w n : Nat} (r : BitVec w) (hfit : 2 ^ w ≤ 256 ^ n) :
    assemble w (leBytes n r) = r := by
  rw [assemble_leBytes, Nat.mod_eq_of_lt (Nat.lt_of_lt_of_le r.isLt hfit)]
  simp

/-- Reading the four low bytes of a wider register keeps its low 32 bits. -/
theorem assemble_low_word {v : Nat} (r : BitVec v) :
    assemble 32 (leBytes 4 r) = r.setWidth 32 := by
  rw [assemble_leBytes]
  apply BitVec.eq_of_toNat_eq
  simp

theorem ofDigits_bytes_lt (bytes : List Byte) :
    Nat.ofDigits 256 (bytes.map BitVec.toNat) < 256 ^ bytes.length := by
  have hdigits : ∀ x ∈ bytes.map BitVec.toNat, x < 256 := by
    intro x hx
    obtain ⟨byte, -, rfl⟩ := List.mem_map.mp hx
    exact byte.isLt
  simpa using Nat.ofDigits_lt_base_pow_length (by decide) hdigits

/-- Assembling adds up the bytes as digits, where they fit. -/
theorem assemble_toNat {w : Nat} {bytes : List Byte} (h : 8 * bytes.length ≤ w) :
    (assemble w bytes).toNat = Nat.ofDigits 256 (bytes.map BitVec.toNat) := by
  induction bytes with
  | nil => simp
  | cons byte bytes ih =>
      rw [List.length_cons] at h
      have hlt := ofDigits_bytes_lt bytes
      have hpow : 256 ^ bytes.length * 256 ≤ 2 ^ w := by
        rw [← Nat.pow_succ, show (256 : Nat) = 2 ^ 8 by rfl, ← Nat.pow_mul]
        exact Nat.pow_le_pow_right (by decide) h
      have hbyte := byte.isLt
      have hsum : Nat.ofDigits 256 (bytes.map BitVec.toNat) * 256 + byte.toNat < 2 ^ w := by
        have : Nat.ofDigits 256 (bytes.map BitVec.toNat) * 256 + 256 ≤ 256 ^ bytes.length * 256 := by
          rw [← Nat.succ_mul]
          exact Nat.mul_le_mul_right 256 hlt
        omega
      rw [assemble_cons, List.map_cons, Nat.ofDigits_cons, BitVec.toNat_add,
        BitVec.toNat_shiftLeft, ih (by omega), BitVec.toNat_setWidth, Nat.shiftLeft_eq,
        ← Nat.add_mod]
      exact (Nat.mod_eq_of_lt hsum).trans (by rw [Nat.add_comm, Nat.mul_comm])

/-- What is assembled without loss comes apart into the same bytes. -/
theorem leBytes_assemble {w : Nat} {bytes : List Byte} (h : 8 * bytes.length ≤ w) :
    leBytes bytes.length (assemble w bytes) = bytes := by
  induction bytes with
  | nil => rfl
  | cons byte bytes ih =>
      rw [List.length_cons] at h
      have hbyte := byte.isLt
      have hsmall : (assemble w bytes).toNat < 2 ^ (8 * bytes.length) := by
        rw [assemble_toNat (by omega), Nat.pow_mul]
        exact ofDigits_bytes_lt bytes
      have hvalue : (assemble w (byte :: bytes)).toNat =
          byte.toNat + 256 * (assemble w bytes).toNat := by
        rw [assemble_toNat (by rw [List.length_cons]; omega), assemble_toNat (by omega),
          List.map_cons, Nat.ofDigits_cons]
      have hlow : (assemble w (byte :: bytes)).setWidth 8 = byte := by
        apply BitVec.eq_of_toNat_eq
        rw [BitVec.toNat_setWidth, hvalue]
        omega
      have hhigh : assemble w (byte :: bytes) >>> 8 = assemble w bytes := by
        apply BitVec.eq_of_toNat_eq
        rw [BitVec.toNat_ushiftRight, hvalue, Nat.shiftRight_eq_div_pow]
        omega
      rw [List.length_cons, leBytes, hlow, hhigh, ih (by omega)]

/-- A register of four bytes by its digits. -/
theorem assemble_four (b0 b1 b2 b3 : Byte) :
    (assemble 32 [b0, b1, b2, b3]).toNat =
      b0.toNat + 256 * (b1.toNat + 256 * (b2.toNat + 256 * b3.toNat)) := by
  rw [assemble_toNat (by simp)]
  simp [Nat.ofDigits]

end Breadcrumb.Machine
