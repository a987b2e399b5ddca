import Breadcrumb.Machine.RegisterFile
import Breadcrumb.Driver.SpiPort

/-!
`dwt_writetodevice` and `dwt_readfromdevice` of `deca_device.c`: the header of
one to three bytes in front of the data, and the chip that takes it apart
again, byte by byte as they come over the SPI. A program of register accesses
runs over the wire as it does on the registers.
-/

namespace Breadcrumb.Driver

open Breadcrumb.Machine

/-- Bit 7 says that a write follows, bit 6 that a sub-index follows. -/
def operation (write subIndex : Bool) : Byte :=
  match write, subIndex with
  | true, false => 0x80
  | true, true => 0xC0
  | false, false => 0x00
  | false, true => 0x40

/-- The header `dwt_writetodevice` and `dwt_readfromdevice` compose. -/
def dwtHeader (write : Bool) (recordNumber index : Word16) : List Byte :=
  if index = 0 then [operation write false ||| recordNumber.setWidth 8]
  else
    (operation write true ||| recordNumber.setWidth 8) ::
      if index ≤ 127 then [index.setWidth 8]
      else [0x80 ||| index.setWidth 8, (index >>> 7).setWidth 8]

/-- A header once it is complete: write or read, and from where. -/
def parseHeader : List Byte → Option (Bool × RegAddr)
  | [first] =>
      if first.getLsbD 6 then none
      else some (first.getLsbD 7, ⟨(first &&& 0x3F).toNat, 0⟩)
  | [first, second] =>
      if second.getLsbD 7 then none
      else some (first.getLsbD 7, ⟨(first &&& 0x3F).toNat, (second &&& 0x7F).toNat⟩)
  | [first, second, third] =>
      some (first.getLsbD 7,
        ⟨(first &&& 0x3F).toNat, (second &&& 0x7F).toNat + 128 * third.toNat⟩)
  | _ => none

theorem operation_parts (write subIndex : Bool) (r : Fin 64) :
    (operation write subIndex ||| (BitVec.ofNat 16 r.val).setWidth 8).getLsbD 7 = write ∧
      (operation write subIndex ||| (BitVec.ofNat 16 r.val).setWidth 8).getLsbD 6 = subIndex ∧
      ((operation write subIndex ||| (BitVec.ofNat 16 r.val).setWidth 8) &&& 0x3F).toNat =
        r.val := by
  decide +revert

/-- The first byte of a header says what it is told. -/
theorem operation_record {recordNumber : Word16} (h : recordNumber.toNat ≤ 0x3F)
    (write subIndex : Bool) :
    (operation write subIndex ||| recordNumber.setWidth 8).getLsbD 7 = write ∧
      (operation write subIndex ||| recordNumber.setWidth 8).getLsbD 6 = subIndex ∧
      ((operation write subIndex ||| recordNumber.setWidth 8) &&& 0x3F).toNat =
        recordNumber.toNat := by
  have := operation_parts write subIndex ⟨recordNumber.toNat, by omega⟩
  simpa using this

theorem low_seven_bits (b : Byte) : (b &&& 0x7F).toNat = b.toNat % 128 := by
  rw [BitVec.toNat_and]
  exact Nat.and_two_pow_sub_one_eq_mod b.toNat 7

/-- Six bits of record number and fifteen of index are all a header can say. -/
theorem parseHeader_range {bytes : List Byte} {write : Bool} {a : RegAddr}
    (h : parseHeader bytes = some (write, a)) : a.recordNumber ≤ 0x3F ∧ a.index ≤ 0x7FFF := by
  have hrecord : ∀ b : Byte, (b &&& 0x3F).toNat ≤ 0x3F := fun b => by
    rw [BitVec.toNat_and]
    exact Nat.and_le_right
  unfold parseHeader at h
  split at h
  next first =>
    split at h <;> cases h
    exact ⟨hrecord first, Nat.zero_le _⟩
  next first second =>
    split at h <;> cases h
    refine ⟨hrecord first, ?_⟩
    have := low_seven_bits second
    dsimp only
    omega
  next first second third =>
    cases h
    refine ⟨hrecord first, ?_⟩
    have := low_seven_bits second
    dsimp only
    omega
  · cases h

theorem index_bytes {index : Word16} (hle : index.toNat ≤ 0x7FFF) :
    ((0x80 ||| index.setWidth 8 : Byte) &&& 0x7F).toNat +
      128 * ((index >>> 7).setWidth 8 : Byte).toNat = index.toNat := by
  have hlow : (0x80 ||| index.setWidth 8 : Byte) &&& 0x7F = index.setWidth 8 &&& 0x7F := by
    rw [BitVec.and_comm, BitVec.and_or_distrib_left]
    simp [BitVec.and_comm]
  rw [hlow, low_seven_bits, BitVec.toNat_setWidth, BitVec.toNat_setWidth,
    BitVec.toNat_ushiftRight, Nat.shiftRight_eq_div_pow]
  omega

/-- A header in range is complete with its last byte and not before, and says what it was
composed of. -/
theorem parseHeader_dwtHeader {recordNumber index : Word16} (hrecord : recordNumber.toNat ≤ 0x3F)
    (hindex : index.toNat ≤ 0x7FFF) (write : Bool) :
    parseHeader (dwtHeader write recordNumber index) =
        some (write, ⟨recordNumber.toNat, index.toNat⟩) ∧
      ∀ k < (dwtHeader write recordNumber index).length,
        parseHeader ((dwtHeader write recordNumber index).take k) = none := by
  obtain ⟨hwrite, hsub, hnumber⟩ := operation_record hrecord write false
  obtain ⟨hwrite', hsub', hnumber'⟩ := operation_record hrecord write true
  unfold dwtHeader
  generalize operation write false ||| recordNumber.setWidth 8 = first at *
  generalize operation write true ||| recordNumber.setWidth 8 = first' at *
  split
  next hzero =>
    refine ⟨by simp only [parseHeader, hwrite, hsub, hnumber, hzero]; rfl, fun k hk => ?_⟩
    obtain rfl : k = 0 := by simpa using hk
    rfl
  next hpos =>
    split
    next hshort =>
      have hlt : index.toNat ≤ 127 := hshort
      have hbit : (index.setWidth 8 : Byte).getLsbD 7 = false := by
        rw [BitVec.getLsbD_setWidth, BitVec.getLsbD, Nat.testBit_lt_two_pow (by omega)]
        rfl
      have hvalue : ((index.setWidth 8 : Byte) &&& 0x7F).toNat = index.toNat := by
        rw [low_seven_bits, BitVec.toNat_setWidth]
        omega
      refine ⟨by simp only [parseHeader, hwrite', hnumber', hbit, hvalue]; rfl, fun k hk => ?_⟩
      have hk' : k < 2 := hk
      interval_cases k
      · rfl
      · simp only [List.take_succ_cons, List.take_zero, parseHeader, hsub', if_true]
    next hlong =>
      have hvalue := index_bytes hindex
      refine ⟨by simp only [parseHeader, hwrite', hnumber', hvalue], fun k hk => ?_⟩
      have hk' : k < 3 := hk
      have hbit : (0x80 ||| index.setWidth 8 : Byte).getLsbD 7 = true := by
        rw [BitVec.getLsbD_or]
        rfl
      interval_cases k
      · rfl
      · simp only [List.take_succ_cons, List.take_zero, parseHeader, hsub', if_true]
      · simp only [List.take_succ_cons, List.take_zero, parseHeader, hbit, if_true]

/-- The chip understands a header exactly if record number and index are in the range the
driver's assertions name. -/
theorem parseHeader_dwtHeader_iff (write : Bool) (recordNumber index : Word16) :
    parseHeader (dwtHeader write recordNumber index) =
        some (write, ⟨recordNumber.toNat, index.toNat⟩) ↔
      recordNumber.toNat ≤ 0x3F ∧ index.toNat ≤ 0x7FFF := by
  constructor
  · intro h
    exact parseHeader_range h
  · rintro ⟨hrecord, hindex⟩
    exact (parseHeader_dwtHeader hrecord hindex write).1

/-- Where the chip is in a transaction. -/
inductive SpiPhase where
  | released
  | header (bytes : List Byte)
  | reading (a : RegAddr)
  | writing (a : RegAddr)

structure DwFront (δ : Type) where
  chip : δ
  phase : SpiPhase

section Front

variable {δ α : Type} (chip : Chip δ)

/-- The chip behind its SPI pins. What it answers to a header nobody looks at. -/
def dwSlave : Slave Byte (DwFront δ) where
  select s := ⟨chip.start s.chip, .header []⟩
  deselect s := ⟨chip.finish s.chip, .released⟩
  exchange s byte :=
    match s.phase with
    | .released => (0, s)
    | .header bytes =>
        match parseHeader (bytes ++ [byte]) with
        | none => (0, ⟨s.chip, .header (bytes ++ [byte])⟩)
        | some (true, a) => (0, ⟨s.chip, .writing a⟩)
        | some (false, a) => (0, ⟨s.chip, .reading a⟩)
    | .reading a =>
        ((chip.readByte s.chip a).1, ⟨(chip.readByte s.chip a).2, .reading (a.offset 1)⟩)
    | .writing a => (0, ⟨chip.writeByte s.chip a byte, .writing (a.offset 1)⟩)

/-- What a complete header opens. -/
def opened (write : Bool) (a : RegAddr) : SpiPhase := if write then .writing a else .reading a

theorem dwSlave_header {write : Bool} {a : RegAddr} {seen rest : List Byte} (hrest : rest ≠ [])
    (hbefore : ∀ k < rest.length, parseHeader (seen ++ rest.take k) = none)
    (hparse : parseHeader (seen ++ rest) = some (write, a)) (d : δ) :
    (dwSlave chip).behind ⟨d, .header seen⟩ rest = ⟨d, opened write a⟩ := by
  induction rest generalizing seen with
  | nil => exact absurd rfl hrest
  | cons byte rest ih =>
      rcases eq_or_ne rest [] with rfl | hne
      · simp only [Slave.behind, dwSlave, hparse]
        cases write <;> rfl
      · have hpartial : parseHeader (seen ++ [byte]) = none := by
          have hlength := List.length_pos_of_ne_nil hne
          simpa using hbefore 1 (by rw [List.length_cons]; omega)
        have hstep : ((dwSlave chip).exchange ⟨d, .header seen⟩ byte).2 =
            ⟨d, .header (seen ++ [byte])⟩ := by
          simp only [dwSlave, hpartial]
        rw [Slave.behind, hstep]
        apply ih hne
        · intro k hk
          simpa using hbefore (k + 1) (by rw [List.length_cons]; omega)
        · simpa using hparse

theorem dwSlave_reading (d : δ) (a : RegAddr) (sent : List Byte) :
    (dwSlave chip).answers ⟨d, .reading a⟩ sent = (chip.readBytes d a sent.length).1 ∧
      (dwSlave chip).behind ⟨d, .reading a⟩ sent =
        ⟨(chip.readBytes d a sent.length).2, .reading (a.offset sent.length)⟩ := by
  induction sent generalizing d a with
  | nil => exact ⟨rfl, rfl⟩
  | cons byte sent ih =>
      obtain ⟨hanswers, hbehind⟩ := ih (chip.readByte d a).2 (a.offset 1)
      rw [RegAddr.offset_offset, Nat.add_comm 1] at hbehind
      exact ⟨congrArg (_ :: ·) hanswers, hbehind⟩

theorem dwSlave_writing (d : δ) (a : RegAddr) (sent : List Byte) :
    (dwSlave chip).behind ⟨d, .writing a⟩ sent =
      ⟨chip.writeBytes d a sent, .writing (a.offset sent.length)⟩ := by
  induction sent generalizing d a with
  | nil => rfl
  | cons byte sent ih =>
      have hbehind := ih (chip.writeByte d a byte) (a.offset 1)
      rw [RegAddr.offset_offset, Nat.add_comm 1] at hbehind
      exact hbehind

/-- `dwt_readfromdevice`. -/
def dwtReadfromdevice (events : List SpiEvent) (a : RegAddr) (length : Nat)
    (s : SpiSystem (DwFront δ)) : Option (List Byte × SpiSystem (DwFront δ)) :=
  readfromspi (dwSlave chip) events
    (dwtHeader false (BitVec.ofNat 16 a.recordNumber) (BitVec.ofNat 16 a.index)) length s

/-- `dwt_writetodevice`. -/
def dwtWritetodevice (events : List SpiEvent) (a : RegAddr) (buffer : List Byte)
    (s : SpiSystem (DwFront δ)) : Option (SpiSystem (DwFront δ)) :=
  writetospi (dwSlave chip) events
    (dwtHeader true (BitVec.ofNat 16 a.recordNumber) (BitVec.ofNat 16 a.index)) buffer s

/-- Accesses over the wire, under any order of events without an abort. -/
def spiCarrier : Carrier RegAddr Byte (SpiSystem (DwFront δ)) where
  Reads s a n values s' :=
    ∃ events, .abort ∉ events ∧ dwtReadfromdevice chip events a n s = some (values, s')
  Writes s a buffer s' :=
    ∃ events, .abort ∉ events ∧ dwtWritetodevice chip events a buffer s = some s'
  Sleeps s ms s' := s' = { s with slave := { s.slave with chip := chip.sleep s.slave.chip ms } }

/-- An address a header can say, and a length that fits behind it. -/
def Addressable (a : RegAddr) (length : Nat) : Prop :=
  a.recordNumber ≤ 0x3F ∧ a.index ≤ 0x7FFF ∧ length ≤ 252

instance (a : RegAddr) (length : Nat) : Decidable (Addressable a length) :=
  inferInstanceAs (Decidable (_ ∧ _ ∧ _))

/-- The port between two transfers, in front of a chip in state `d`. -/
def AtRest (s : SpiSystem (DwFront δ)) (d : δ) : Prop := Idle s ∧ s.slave = ⟨d, .released⟩

variable {chip} {a : RegAddr} {n : Nat} {s s' : SpiSystem (DwFront δ)} {d : δ}

theorem dwtHeader_length (write : Bool) (recordNumber index : Word16) :
    1 ≤ (dwtHeader write recordNumber index).length ∧
      (dwtHeader write recordNumber index).length ≤ 3 := by
  unfold dwtHeader
  split
  · simp
  · split <;> simp

theorem dwtHeader_ne_nil (write : Bool) (recordNumber index : Word16) :
    dwtHeader write recordNumber index ≠ [] :=
  List.ne_nil_of_length_pos (dwtHeader_length write recordNumber index).1

/-- The header of an access leaves the chip at its address. -/
theorem Addressable.opens (chip : Chip δ) (h : Addressable a n) (write : Bool) (d : δ) :
    (dwSlave chip).behind ⟨d, .header []⟩
        (dwtHeader write (BitVec.ofNat 16 a.recordNumber) (BitVec.ofNat 16 a.index)) =
      ⟨d, opened write a⟩ := by
  have hrecord : (BitVec.ofNat 16 a.recordNumber).toNat = a.recordNumber := by
    rw [BitVec.toNat_ofNat]
    exact Nat.mod_eq_of_lt (by have := h.1; omega)
  have hindex : (BitVec.ofNat 16 a.index).toNat = a.index := by
    rw [BitVec.toNat_ofNat]
    exact Nat.mod_eq_of_lt (by have := h.2.1; omega)
  obtain ⟨hparse, hbefore⟩ := parseHeader_dwtHeader (le_of_eq_of_le hrecord h.1)
    (le_of_eq_of_le hindex h.2.1) write
  rw [hrecord, hindex] at hparse
  exact dwSlave_header chip (dwtHeader_ne_nil _ _ _) hbefore hparse d

theorem dwtReadfromdevice_sound (h : Addressable a n) (hrest : AtRest s d)
    {events : List SpiEvent} (hevents : .abort ∉ events) {values : List Byte}
    (hread : dwtReadfromdevice chip events a n s = some (values, s')) :
    values = (chip.device.read d a n).1 ∧ AtRest s' (chip.device.read d a n).2 := by
  obtain ⟨hidle, hslave⟩ := hrest
  obtain ⟨-, hlength⟩ := dwtHeader_length false (BitVec.ofNat 16 a.recordNumber)
    (BitVec.ofNat 16 a.index)
  have hopens := h.opens chip false (chip.start d)
  obtain ⟨hanswers, hbehind⟩ := dwSlave_reading chip (chip.start d) a (List.replicate n 0)
  rw [List.length_replicate] at hanswers hbehind
  obtain ⟨hidle', -, hslave', hvalues⟩ := readfromspi_of_le hevents hidle
    (dwtHeader_ne_nil _ _ _) (by have := h.2.2; omega) hread
  rw [hslave] at hslave' hvalues
  simp only [Slave.behind_append, Slave.answers_append] at hslave' hvalues
  rw [List.drop_left' (Slave.answers_length _ _ _)] at hvalues
  have hselect : (dwSlave chip).select ⟨d, .released⟩ = ⟨chip.start d, .header []⟩ := rfl
  rw [hselect, hopens] at hslave' hvalues
  exact ⟨hvalues.trans hanswers, hidle', hslave'.trans (by rw [opened]; exact hbehind ▸ rfl)⟩

theorem dwtWritetodevice_sound {buffer : List Byte} (h : Addressable a buffer.length)
    (hrest : AtRest s d) {events : List SpiEvent} (hevents : .abort ∉ events)
    (hwrite : dwtWritetodevice chip events a buffer s = some s') :
    AtRest s' (chip.device.write d a buffer) := by
  obtain ⟨hidle, hslave⟩ := hrest
  obtain ⟨-, hlength⟩ := dwtHeader_length true (BitVec.ofNat 16 a.recordNumber)
    (BitVec.ofNat 16 a.index)
  have hopens := h.opens chip true (chip.start d)
  obtain ⟨hidle', -, hslave'⟩ := writetospi_eq_some hevents hidle hwrite
  rw [sentBytes_of_le (by simp [dwtHeader_ne_nil])
    (by rw [List.length_append]; have := h.2.2; omega), hslave, Slave.behind_append] at hslave'
  have hselect : (dwSlave chip).select ⟨d, .released⟩ = ⟨chip.start d, .header []⟩ := rfl
  rw [hselect, hopens] at hslave'
  refine ⟨hidle', hslave'.trans ?_⟩
  rw [opened, if_pos rfl, dwSlave_writing]
  rfl

/-- Accesses over the wire are accesses to the registers. -/
theorem spiCarrier_simulates (chip : Chip δ) :
    Simulates (spiCarrier chip) chip.device AtRest Addressable
      (fun a buffer => Addressable a buffer.length) where
  read_total s d a n hrest _ := by
    obtain ⟨events, values, s', hevents, hread⟩ := readfromspi_total (dwSlave chip)
      (dwtHeader false (BitVec.ofNat 16 a.recordNumber) (BitVec.ofNat 16 a.index)) n hrest.1
    exact ⟨values, s', events, hevents, hread⟩
  read_sound := by
    rintro s d a n values s' hrest h ⟨events, hevents, hread⟩
    exact dwtReadfromdevice_sound h hrest hevents hread
  write_total s d a buffer hrest _ := by
    obtain ⟨events, s', hevents, hwrite⟩ := writetospi_total (dwSlave chip)
      (dwtHeader true (BitVec.ofNat 16 a.recordNumber) (BitVec.ofNat 16 a.index)) buffer hrest.1
    exact ⟨s', events, hevents, hwrite⟩
  write_sound := by
    rintro s d a buffer s' hrest h ⟨events, hevents, hwrite⟩
    exact dwtWritetodevice_sound h hrest hevents hwrite
  sleep_total s d ms _ := ⟨_, rfl⟩
  sleep_sound := by
    rintro s d ms s' ⟨hidle, hslave⟩ rfl
    refine ⟨⟨hidle.inProgress, hidle.selected, hidle.rxData, hidle.txd, hidle.rxd⟩, ?_⟩
    rw [hslave]
    rfl

/-- A program of accesses in range, started at a chip at rest: it has an execution over the
SPI, and however its transfers are interleaved it ends with the result and in the state it
has on the registers themselves. -/
theorem exec_over_spi (chip : Chip δ) {p : BusProgram RegAddr Byte α}
    (hp : p.Touches Addressable fun a buffer => Addressable a buffer.length)
    (hrest : AtRest s d) :
    (∃ a s', Exec (spiCarrier chip) p s a s') ∧
      ∀ a s', Exec (spiCarrier chip) p s a s' →
        a = (p.run chip.device d).1 ∧ AtRest s' (p.run chip.device d).2 :=
  ⟨(spiCarrier_simulates chip).exec_total hp hrest, fun _ _ hexec =>
    (spiCarrier_simulates chip).exec_eq_run hp hrest hexec⟩

end Front

/-- Four bytes written to SYS_CFG and two of them read back, over the wire. -/
theorem exec_over_spi_memory :
    let p : BusProgram RegAddr Byte (List Byte) :=
      .write ⟨0x04, 0⟩ [1, 2, 3, 4] (.read ⟨0x04, 1⟩ 2 .done)
    (∃ a s', Exec (spiCarrier memoryChip) p (idlePort ⟨fun _ => 0, .released⟩) a s') ∧
      ∀ a s', Exec (spiCarrier memoryChip) p (idlePort ⟨fun _ => 0, .released⟩) a s' →
        a = [2, 3] := by
  intro p
  have hp : p.Touches Addressable fun a buffer => Addressable a buffer.length :=
    ⟨by decide, by decide, fun _ _ => trivial⟩
  obtain ⟨hexists, hall⟩ := exec_over_spi memoryChip hp
    ⟨idlePort_idle (⟨fun _ => 0, .released⟩ : DwFront RegisterFile), rfl⟩
  refine ⟨hexists, fun a s' hexec => ?_⟩
  have hvalue := (hall a s' hexec).1
  rw [hvalue]
  decide

end Breadcrumb.Driver
