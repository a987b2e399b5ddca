import Breadcrumb.Machine.BusProgram
import Breadcrumb.Machine.Words

/-!
Chips with register files: bytes under a file number and an index, read and
written in ascending order within one transaction. Some of them behave as
memory; what is written there is read back, and nothing else changes it.
-/

namespace Breadcrumb.Machine

variable {δ : Type}

structure RegAddr where
  recordNumber : Nat
  index : Nat
  deriving DecidableEq

namespace RegAddr

def offset (a : RegAddr) (i : Nat) : RegAddr := { a with index := a.index + i }

@[simp] theorem offset_zero (a : RegAddr) : a.offset 0 = a := rfl

@[simp] theorem offset_offset (a : RegAddr) (i j : Nat) :
    (a.offset i).offset j = a.offset (i + j) := by
  simp [offset, Nat.add_assoc]

end RegAddr

/-- A chip at the level of bytes. Whatever happens between two transactions happens in
`start` and `finish`. -/
structure Chip (δ : Type) where
  start : δ → δ
  readByte : δ → RegAddr → Byte × δ
  writeByte : δ → RegAddr → Byte → δ
  finish : δ → δ
  sleep : δ → Nat → δ

namespace Chip

def readBytes (chip : Chip δ) : δ → RegAddr → Nat → List Byte × δ
  | d, _, 0 => ([], d)
  | d, a, n + 1 =>
      let (byte, d) := chip.readByte d a
      let (rest, d) := chip.readBytes d (a.offset 1) n
      (byte :: rest, d)

def writeBytes (chip : Chip δ) : δ → RegAddr → List Byte → δ
  | d, _, [] => d
  | d, a, byte :: rest => chip.writeBytes (chip.writeByte d a byte) (a.offset 1) rest

theorem readBytes_length (chip : Chip δ) (d : δ) (a : RegAddr) (n : Nat) :
    (chip.readBytes d a n).1.length = n := by
  induction n generalizing d a with
  | zero => rfl
  | succ n ih => exact congrArg (· + 1) (ih _ _)

/-- A read or a write is one transaction. -/
def device (chip : Chip δ) : Device RegAddr Byte δ where
  read d a n :=
    let (bytes, d) := chip.readBytes (chip.start d) a n
    (bytes, chip.finish d)
  write d a bytes := chip.finish (chip.writeBytes (chip.start d) a bytes)
  sleep := chip.sleep
  read_length d a n := chip.readBytes_length (chip.start d) a n

end Chip

/-! Registers that behave as memory. -/

abbrev RegisterFile := RegAddr → Byte

namespace RegisterFile

/-- `n` bytes from an address on. -/
def peek (mem : RegisterFile) (a : RegAddr) (n : Nat) : List Byte :=
  (List.range n).map fun i => mem (a.offset i)

/-- The register file with bytes written from an address on. -/
def poke (mem : RegisterFile) (a : RegAddr) (bytes : List Byte) : RegisterFile := fun b =>
  if b.recordNumber = a.recordNumber ∧ a.index ≤ b.index ∧ b.index < a.index + bytes.length then
    bytes.getD (b.index - a.index) 0
  else mem b

variable {mem : RegisterFile} {a b : RegAddr} {bytes : List Byte}

theorem poke_of_file (h : b.recordNumber ≠ a.recordNumber) : mem.poke a bytes b = mem b :=
  if_neg fun hin => h hin.1

theorem poke_of_outside (h : b.index < a.index ∨ a.index + bytes.length ≤ b.index) :
    mem.poke a bytes b = mem b :=
  if_neg fun hin => by omega

@[simp] theorem peek_poke (mem : RegisterFile) (a : RegAddr) (bytes : List Byte) :
    (mem.poke a bytes).peek a bytes.length = bytes := by
  apply List.ext_getElem
  · simp [peek]
  · intro i hi hi'
    simp [peek, poke, RegAddr.offset, hi']

theorem peek_congr {mem mem' : RegisterFile} {n : Nat}
    (h : ∀ i < n, mem (a.offset i) = mem' (a.offset i)) : mem.peek a n = mem'.peek a n := by
  apply List.map_congr_left
  intro i hi
  exact h i (List.mem_range.mp hi)

/-- Registers of two and of four bytes. -/
def word16 (mem : RegisterFile) (a : RegAddr) : Word16 := assemble 16 (mem.peek a 2)

def word32 (mem : RegisterFile) (a : RegAddr) : Word32 := assemble 32 (mem.peek a 4)

@[simp] theorem word16_poke (mem : RegisterFile) (a : RegAddr) (w : Word16) :
    (mem.poke a (leBytes 2 w)).word16 a = w := by
  have hpeek := peek_poke mem a (leBytes 2 w)
  rw [leBytes_length] at hpeek
  rw [word16, hpeek]
  exact assemble_leBytes_self w (by decide)

@[simp] theorem word32_poke (mem : RegisterFile) (a : RegAddr) (w : Word32) :
    (mem.poke a (leBytes 4 w)).word32 a = w := by
  have hpeek := peek_poke mem a (leBytes 4 w)
  rw [leBytes_length] at hpeek
  rw [word32, hpeek]
  exact assemble_leBytes_self w (by decide)

/-- Two ranges of addresses that have none in common. -/
def Apart (a : RegAddr) (n : Nat) (b : RegAddr) (m : Nat) : Prop :=
  a.recordNumber ≠ b.recordNumber ∨ a.index + n ≤ b.index ∨ b.index + m ≤ a.index

instance (a : RegAddr) (n : Nat) (b : RegAddr) (m : Nat) : Decidable (Apart a n b m) :=
  inferInstanceAs (Decidable (_ ∨ _ ∨ _))

/-- The addresses of some ranges, each given by where it starts and its length. -/
def Covers (ranges : List (RegAddr × Nat)) (b : RegAddr) : Prop :=
  ∃ r ∈ ranges, b.recordNumber = r.1.recordNumber ∧ r.1.index ≤ b.index ∧ b.index < r.1.index + r.2

/-- A range of addresses that meets none of the given ones. -/
def Clear (ranges : List (RegAddr × Nat)) (a : RegAddr) (n : Nat) : Prop :=
  ∀ r ∈ ranges, Apart r.1 r.2 a n

instance (ranges : List (RegAddr × Nat)) (a : RegAddr) (n : Nat) : Decidable (Clear ranges a n) :=
  inferInstanceAs (Decidable (∀ r ∈ ranges, _))

theorem Clear.apart {ranges : List (RegAddr × Nat)} {n : Nat} (h : Clear ranges a n)
    (hb : Covers ranges b) : Apart b 1 a n := by
  obtain ⟨r, hr, hfile, hfrom, hto⟩ := hb
  rcases h r hr with hother | hbefore | hbehind
  · exact .inl fun hsame => hother (hfile ▸ hsame)
  · exact .inr (.inl (by omega))
  · exact .inr (.inr (by omega))

theorem Covers.of_mem {ranges : List (RegAddr × Nat)} {n i : Nat} (h : (a, n) ∈ ranges)
    (hi : i < n) : Covers ranges (a.offset i) :=
  ⟨(a, n), h, rfl, Nat.le_add_right _ _, Nat.add_lt_add_left hi _⟩

theorem Covers.mono {ranges ranges' : List (RegAddr × Nat)} (h : Covers ranges b)
    (hsub : ranges ⊆ ranges') : Covers ranges' b := by
  obtain ⟨r, hr, hin⟩ := h
  exact ⟨r, hsub hr, hin⟩

/-- All of some addresses in one of the ranges. -/
def Within (ranges : List (RegAddr × Nat)) (a : RegAddr) (n : Nat) : Prop :=
  ∃ r ∈ ranges,
    a.recordNumber = r.1.recordNumber ∧ r.1.index ≤ a.index ∧ a.index + n ≤ r.1.index + r.2

instance (ranges : List (RegAddr × Nat)) (a : RegAddr) (n : Nat) : Decidable (Within ranges a n) :=
  inferInstanceAs (Decidable (∃ r ∈ ranges, _))

theorem Within.mono {ranges ranges' : List (RegAddr × Nat)} {n : Nat} (h : Within ranges a n)
    (hsub : ranges ⊆ ranges') : Within ranges' a n := by
  obtain ⟨r, hr, hin⟩ := h
  exact ⟨r, hsub hr, hin⟩

theorem Clear.of_within {ranges footprint : List (RegAddr × Nat)} {n : Nat}
    (h : ∀ f ∈ footprint, Clear ranges f.1 f.2) (ha : Within footprint a n) : Clear ranges a n := by
  obtain ⟨f, hf, hfile, hfrom, hto⟩ := ha
  intro r hr
  rcases h f hf r hr with hother | hbefore | hbehind
  · exact .inl (hfile ▸ hother)
  · exact .inr (.inl (by omega))
  · exact .inr (.inr (by omega))

theorem peek_poke_apart {n : Nat} (h : Apart b n a bytes.length) :
    (mem.poke a bytes).peek b n = mem.peek b n := by
  apply peek_congr
  intro i hi
  rcases h with hfile | hbefore | hbehind
  · exact poke_of_file hfile
  · exact poke_of_outside (.inl (show b.index + i < a.index by omega))
  · exact poke_of_outside (.inr (show a.index + bytes.length ≤ b.index + i by omega))

theorem word32_poke_apart (h : Apart b 4 a bytes.length) :
    (mem.poke a bytes).word32 b = mem.word32 b := by
  rw [word32, peek_poke_apart h, word32]

theorem poke_apart (h : Apart b 1 a bytes.length) : mem.poke a bytes b = mem b := by
  rcases h with hfile | hbefore | hbehind
  · exact poke_of_file hfile
  · exact poke_of_outside (.inl (show b.index < a.index by omega))
  · exact poke_of_outside (.inr hbehind)

/-- Writes one after the other. -/
def pokes (mem : RegisterFile) (writes : List (RegAddr × List Byte)) : RegisterFile :=
  writes.foldl (fun mem w => mem.poke w.1 w.2) mem

theorem peek_pokes_apart {n : Nat} {writes : List (RegAddr × List Byte)}
    (h : ∀ w ∈ writes, Apart b n w.1 w.2.length) : (mem.pokes writes).peek b n = mem.peek b n := by
  induction writes generalizing mem with
  | nil => rfl
  | cons w writes ih =>
      refine Eq.trans ?_ (peek_poke_apart (h w List.mem_cons_self))
      exact ih fun w hw => h w (List.mem_cons_of_mem _ hw)

/-- Where no two of the writes meet, each of them stands. -/
theorem peek_pokes {writes : List (RegAddr × List Byte)} {w : RegAddr × List Byte}
    (happart : writes.Pairwise fun w w' => Apart w.1 w.2.length w'.1 w'.2.length)
    (hw : w ∈ writes) : (mem.pokes writes).peek w.1 w.2.length = w.2 := by
  induction writes generalizing mem with
  | nil => cases hw
  | cons w' writes ih =>
      obtain ⟨hfirst, hrest⟩ := List.pairwise_cons.mp happart
      rcases List.mem_cons.mp hw with rfl | hmem
      · refine Eq.trans ?_ (peek_poke mem w.1 w.2)
        exact peek_pokes_apart hfirst
      · exact ih hrest hmem

theorem word32_eq (mem : RegisterFile) (a : RegAddr) :
    mem.word32 a =
      assemble 32 [mem (a.offset 0), mem (a.offset 1), mem (a.offset 2), mem (a.offset 3)] := rfl

/-- The upper byte of a register by itself. -/
theorem word32_top (mem : RegisterFile) (a : RegAddr) :
    mem (a.offset 3) = (mem.word32 a >>> 24).setWidth 8 := by
  have hword := assemble_four (mem (a.offset 0)) (mem (a.offset 1)) (mem (a.offset 2))
    (mem (a.offset 3))
  have hlt0 := (mem (a.offset 0)).isLt
  have hlt1 := (mem (a.offset 1)).isLt
  have hlt2 := (mem (a.offset 2)).isLt
  have hlt3 := (mem (a.offset 3)).isLt
  apply BitVec.eq_of_toNat_eq
  rw [BitVec.toNat_setWidth, BitVec.toNat_ushiftRight, Nat.shiftRight_eq_div_pow, word32_eq]
  omega

theorem word32_poke_top (mem : RegisterFile) (a : RegAddr) (byte : Byte) :
    (mem.poke (a.offset 3) [byte]).word32 a =
      (mem.word32 a &&& lowerBytes) ||| (byte.setWidth 32 <<< 24) := by
  have hword := assemble_four (mem (a.offset 0)) (mem (a.offset 1)) (mem (a.offset 2))
    (mem (a.offset 3))
  have hword' := assemble_four (mem (a.offset 0)) (mem (a.offset 1)) (mem (a.offset 2)) byte
  have hlt0 := (mem (a.offset 0)).isLt
  have hlt1 := (mem (a.offset 1)).isLt
  have hlt2 := (mem (a.offset 2)).isLt
  have hlt3 := (mem (a.offset 3)).isLt
  have hbyte := byte.isLt
  have hpoke : (mem.poke (a.offset 3) [byte]).word32 a =
      assemble 32 [mem (a.offset 0), mem (a.offset 1), mem (a.offset 2), byte] := by
    rw [word32_eq, poke_apart (.inr (.inl (by simp [RegAddr.offset]))),
      poke_apart (.inr (.inl (by simp [RegAddr.offset]))),
      poke_apart (.inr (.inl (by simp [RegAddr.offset])))]
    simp [poke]
  have hmask : (mem.word32 a &&& lowerBytes).toNat = (mem.word32 a).toNat % 2 ^ 24 := by
    rw [BitVec.toNat_and]
    exact Nat.and_two_pow_sub_one_eq_mod _ 24
  have htop : (byte.setWidth 32 <<< 24 : Word32).toNat = byte.toNat <<< 24 := by
    rw [BitVec.toNat_shiftLeft, BitVec.toNat_setWidth, Nat.shiftLeft_eq, Nat.shiftLeft_eq]
    omega
  apply BitVec.eq_of_toNat_eq
  rw [hpoke, hword', BitVec.toNat_or, hmask, htop, Nat.or_comm,
    ← Nat.shiftLeft_add_eq_or_of_lt (Nat.mod_lt _ (by decide)), Nat.shiftLeft_eq, word32_eq]
  omega

end RegisterFile

/-- The addresses of a region hold what was last written to them, as long as all writes are
quiet: a chip may have writes that reset it. -/
structure Remembers (dev : Device RegAddr Byte δ) (mem : δ → RegisterFile)
    (region : RegAddr → Prop) (quiet : RegAddr → List Byte → Prop) : Prop where
  read_value : ∀ d a n, (∀ i < n, region (a.offset i)) → (dev.read d a n).1 = (mem d).peek a n
  read_keeps : ∀ d a n b, region b → mem (dev.read d a n).2 b = mem d b
  write : ∀ d a bytes b, quiet a bytes → region b →
    mem (dev.write d a bytes) b = (mem d).poke a bytes b
  sleep : ∀ d ms b, region b → mem (dev.sleep d ms) b = mem d b

/-- A chip of registers that differ in what they make of a byte written to them. -/
def registerChip (store : RegAddr → Byte → Byte → Byte) : Chip RegisterFile where
  start mem := mem
  readByte mem a := (mem a, mem)
  writeByte mem a byte := Function.update mem a (store a (mem a) byte)
  finish mem := mem
  sleep mem _ := mem

/-- A chip that is memory throughout. -/
def memoryChip : Chip RegisterFile := registerChip fun _ _ byte => byte

/-- The same, an access at a time. -/
def memory : Device RegAddr Byte RegisterFile where
  read mem a n := (mem.peek a n, mem)
  write mem a bytes := mem.poke a bytes
  sleep mem _ := mem
  read_length mem a n := by simp [RegisterFile.peek]

/-- What a program leaves in memory is what it writes. -/
theorem run_memory_eq_pokes {α : Type} (p : BusProgram RegAddr Byte α) (mem : RegisterFile) :
    (p.run memory mem).2 = mem.pokes (p.writes memory mem) := by
  induction p generalizing mem with
  | done a => rfl
  | read a n next ih => exact ih _ mem
  | write a bytes next ih => exact ih _
  | sleep ms next ih => exact ih mem

theorem memory_remembers (region : RegAddr → Prop) (quiet : RegAddr → List Byte → Prop) :
    Remembers memory (fun mem => mem) region quiet where
  read_value _ _ _ _ := rfl
  read_keeps _ _ _ _ _ := rfl
  write _ _ _ _ _ _ := rfl
  sleep _ _ _ _ := rfl

namespace Remembers

open RegisterFile

variable {α : Type} {dev : Device RegAddr Byte δ} {mem : δ → RegisterFile}
  {region : RegAddr → Prop} {quiet : RegAddr → List Byte → Prop}

theorem mono {region' : RegAddr → Prop} (h : Remembers dev mem region quiet)
    (hregion : ∀ b, region' b → region b) : Remembers dev mem region' quiet where
  read_value d a n ha := h.read_value d a n fun i hi => hregion _ (ha i hi)
  read_keeps d a n b hb := h.read_keeps d a n b (hregion b hb)
  write d a bytes b hquiet hb := h.write d a bytes b hquiet (hregion b hb)
  sleep d ms b hb := h.sleep d ms b (hregion b hb)

theorem poke_congr {mem mem' : RegisterFile} {a b : RegAddr} {bytes : List Byte}
    (h : mem b = mem' b) : mem.poke a bytes b = mem'.poke a bytes b := by
  unfold RegisterFile.poke
  rw [h]

/-- A program that reads in the region only runs as it does on plain memory. -/
theorem run_memory (h : Remembers dev mem region quiet) {p : BusProgram RegAddr Byte α}
    (hp : p.Touches (fun a n => ∀ i < n, region (a.offset i)) quiet) {d : δ}
    {image : RegisterFile} (himage : ∀ b, region b → mem d b = image b) :
    (p.run dev d).1 = (p.run memory image).1 ∧
      ∀ b, region b → mem (p.run dev d).2 b = (p.run memory image).2 b := by
  induction p generalizing d image with
  | done a => exact ⟨rfl, himage⟩
  | read a n next ih =>
      have hvalue : (dev.read d a n).1 = image.peek a n := by
        rw [h.read_value d a n hp.1]
        exact RegisterFile.peek_congr fun i hi => himage _ (hp.1 i hi)
      have hnext := ih _ (hp.2 _ (dev.read_length d a n)) (d := (dev.read d a n).2)
        fun b hb => (h.read_keeps d a n b hb).trans (himage b hb)
      rw [hvalue] at hnext
      simp only [BusProgram.run, hvalue]
      exact hnext
  | write a bytes next ih =>
      exact ih hp.2 fun b hb => (h.write d a bytes b hp.1 hb).trans (poke_congr (himage b hb))
  | sleep ms next ih => exact ih hp fun b hb => (h.sleep d ms b hb).trans (himage b hb)

/-- A program that writes outside the region leaves it as it is. -/
theorem keeps (h : Remembers dev mem region quiet) {p : BusProgram RegAddr Byte α}
    (hp : p.Touches (fun _ _ => True) fun a bytes =>
      quiet a bytes ∧ ∀ b, region b → Apart b 1 a bytes.length)
    (image : RegisterFile) :
    p.Triple dev (fun d => ∀ b, region b → mem d b = image b)
      fun _ d => ∀ b, region b → mem d b = image b := by
  apply hp.keeps
  · intro d a n _ hd b hb
    exact (h.read_keeps d a n b hb).trans (hd b hb)
  · intro d a bytes ⟨hquiet, hapart⟩ hd b hb
    rw [h.write d a bytes b hquiet hb, poke_apart (hapart b hb)]
    exact hd b hb
  · intro d ms hd b hb
    exact (h.sleep d ms b hb).trans (hd b hb)

end Remembers

section RegisterChip

variable {store : RegAddr → Byte → Byte → Byte} {region : RegAddr → Prop}

end RegisterChip

end Breadcrumb.Machine
