import Breadcrumb.Driver.NrfSpi

/-!
What a transfer puts on the wire. The invariant counts in bytes of one list,
the wire: what is stored, what is shifted and not stored, what waits in TXD.
The peripheral shifts a byte and the handler takes one; both keep it.
-/

namespace Breadcrumb.Driver

open Breadcrumb.Machine

/-- Beyond the transmit buffer the over-run character is sent. -/
def wireByte (desc : XferDesc) (orc : Byte) (i : Nat) : Byte :=
  if i < desc.txLength.toNat then desc.pTxBuffer i else orc

/-- A transfer of no bytes sends one all the same. -/
def wireLength (desc : XferDesc) : Nat := max 1 (max desc.txLength.toNat desc.rxLength.toNat)

def wire (desc : XferDesc) (orc : Byte) : List Byte :=
  (List.range (wireLength desc)).map (wireByte desc orc)

/-- The receive buffer behind `count` answers. -/
def receive (desc : XferDesc) (count : Nat) (answers : List Byte) : Nat → Byte := fun i =>
  if i < min count desc.rxLength.toNat then answers.getD i 0 else desc.pRxBuffer i

@[simp] theorem wire_length (desc : XferDesc) (orc : Byte) :
    (wire desc orc).length = wireLength desc := by
  simp [wire]

theorem wire_getElem {desc : XferDesc} {orc : Byte} {i : Nat}
    (h : i < (wire desc orc).length) : (wire desc orc)[i] = wireByte desc orc i := by
  simp [wire]

theorem wireLength_le (desc : XferDesc) : wireLength desc ≤ 255 := by
  unfold wireLength
  omega

/-! The counts and the invariant. -/

section Count

variable {τ : Type} (s : SpiSystem τ)

def SpiSystem.stored : Nat := s.cb.bytesTransferred.toNat

/-- Shifted in and not stored yet. -/
def SpiSystem.held : List Byte := s.rxData.toList ++ s.regs.rxd

def SpiSystem.shifted : Nat := s.stored + s.held.length

/-- Steps of the peripheral and of the handler: three to a byte. -/
def SpiSystem.work : Nat := s.shifted + (s.stored + s.rxData.toList.length) + s.stored

def SpiSystem.limit : Nat := wireLength s.cb.done

/-- At most two bytes more than are stored have been written to TXD. -/
def SpiSystem.started : Nat := min s.limit (s.stored + 2)

end Count

/-- A port between two transfers. -/
structure Idle {τ : Type} (s : SpiSystem τ) : Prop where
  inProgress : s.cb.transferInProgress = false
  selected : s.selected = false
  rxData : s.rxData = none
  txd : s.regs.txd = []
  rxd : s.regs.rxd = []

/-- `desc` is being transferred to a slave that was at `t` when it was selected. `bound`
is where an abort has cut the transfer off; lengths are below 256. -/
structure Transferring {τ : Type} (slave : Slave Byte τ) (desc : XferDesc) (orc : Byte) (t : τ)
    (bound : Nat) (s : SpiSystem τ) : Prop where
  inProgress : s.cb.transferInProgress = true
  selected : s.selected = true
  waiting : s.spiXferDone = false
  intReady : s.regs.intReady = true
  overrun : s.cb.orc = orc
  txBuffer : s.cb.done.pTxBuffer = desc.pTxBuffer
  txLength : s.cb.done.txLength.toNat = min desc.txLength.toNat bound
  rxLength : s.cb.done.rxLength.toNat = min desc.rxLength.toNat bound
  cut : bound = 256 ∨ s.cb.abort = true ∧ 2 ≤ bound ∧ bound ≤ s.stored + 1
  notDone : s.stored < s.limit
  ready : s.regs.ready = !s.regs.rxd.isEmpty
  atSlave : s.slave = slave.behind t ((wire desc orc).take s.shifted)
  pending : s.regs.txd = ((wire desc orc).take s.started).drop s.shifted
  shiftedLe : s.shifted ≤ s.started
  answered : s.held = (slave.answers t ((wire desc orc).take s.shifted)).drop s.stored
  memory : s.cb.done.pRxBuffer =
    receive desc s.stored (slave.answers t ((wire desc orc).take s.shifted))

/-- The first `count` bytes of the wire have been exchanged and the slave is released. -/
structure Completed {τ : Type} (slave : Slave Byte τ) (desc : XferDesc) (orc : Byte) (t : τ)
    (count : Nat) (s : SpiSystem τ) : Prop where
  idle : Idle s
  done : s.spiXferDone = true
  stored : s.stored = count
  overrun : s.cb.orc = orc
  atSlave : s.slave = slave.deselect (slave.behind t ((wire desc orc).take count))
  memory : s.cb.done.pRxBuffer =
    receive desc count (slave.answers t ((wire desc orc).take count))

/-! A byte is shifted, a byte is taken. -/

section Step

variable {τ : Type} {slave : Slave Byte τ} {desc : XferDesc} {orc : Byte} {t : τ} {bound : Nat}
  {s s' : SpiSystem τ}

theorem Transferring.started_le (h : Transferring slave desc orc t bound s) :
    s.started ≤ (wire desc orc).length := by
  have hlimit : s.limit ≤ wireLength desc := by
    unfold SpiSystem.limit wireLength
    rw [h.txLength, h.rxLength]
    omega
  rw [wire_length]
  exact Nat.le_trans (Nat.min_le_left _ _) hlimit

/-- What waits in TXD is the next byte of the wire and what follows it. -/
theorem Transferring.next_byte (h : Transferring slave desc orc t bound s) {data : Byte}
    {rest : List Byte} (htxd : s.regs.txd = data :: rest) :
    s.shifted < s.started ∧
      (wire desc orc).take (s.shifted + 1) = (wire desc orc).take s.shifted ++ [data] ∧
      rest = ((wire desc orc).take s.started).drop (s.shifted + 1) := by
  have hdrop := h.pending.symm.trans htxd
  have hlt : s.shifted < ((wire desc orc).take s.started).length := by
    apply Nat.lt_of_not_le
    intro hle
    rw [List.drop_eq_nil_of_le hle] at hdrop
    cases hdrop
  rw [List.drop_eq_getElem_cons hlt, List.cons.injEq, List.getElem_take] at hdrop
  rw [List.length_take, Nat.min_eq_left h.started_le] at hlt
  refine ⟨hlt, ?_, hdrop.2.symm⟩
  rw [List.take_succ_eq_append_getElem (Nat.lt_of_lt_of_le hlt h.started_le), hdrop.1]

theorem receive_congr {count : Nat} {answers answers' : List Byte}
    (h : ∀ i < count, answers.getD i 0 = answers'.getD i 0) :
    receive desc count answers = receive desc count answers' := by
  funext i
  unfold receive
  split
  · next hi => exact h i (by omega)
  · rfl

/-- One byte goes from TXD to the slave and its answer to what is held. -/
theorem shiftByte_spec (h : shiftByte slave s = some s') :
    ∃ data rest, s.regs.txd = data :: rest ∧ s'.regs.txd = rest ∧
      s'.held = s.held ++ [(slave.exchange s.slave data).1] ∧
      s'.slave = (slave.exchange s.slave data).2 ∧
      s'.regs.ready = (s.regs.ready || s.regs.rxd.isEmpty) ∧ s'.regs.rxd ≠ [] ∧
      s'.regs.intReady = s.regs.intReady ∧ s'.cb = s.cb ∧ s'.rxData = s.rxData ∧
      s'.selected = s.selected ∧ s'.spiXferDone = s.spiXferDone := by
  unfold shiftByte at h
  split at h
  · cases h
  next data rest htxd =>
  split at h
  · cases h
    refine ⟨data, rest, htxd, rfl, ?_, rfl, rfl, by simp, rfl, rfl, rfl, rfl, rfl⟩
    simp only [SpiSystem.held, List.append_assoc]
  · cases h

/-- The peripheral moves one byte of the wire from TXD to the slave and an answer to RXD. -/
theorem Transferring.shift (h : Transferring slave desc orc t bound s)
    (hshift : shiftByte slave s = some s') : Transferring slave desc orc t bound s' := by
  obtain ⟨data, rest, htxd, htxd', hheld, hslave, hready, hrxd, hint, hcb, hdata, hselected,
    hdone⟩ := shiftByte_spec hshift
  obtain ⟨hlt, htake, hrest⟩ := h.next_byte htxd
  have hstored : s'.stored = s.stored := by rw [SpiSystem.stored, hcb, SpiSystem.stored]
  have hlimit : s'.limit = s.limit := by rw [SpiSystem.limit, hcb, SpiSystem.limit]
  have hstarted : s'.started = s.started := by
    rw [SpiSystem.started, hlimit, hstored, SpiSystem.started]
  have hshifted : s'.shifted = s.shifted + 1 := by
    rw [SpiSystem.shifted, hstored, hheld, List.length_append, List.length_singleton,
      ← Nat.add_assoc, SpiSystem.shifted]
  have hanswers := slave.answers_concat t ((wire desc orc).take s.shifted) data
  have hlen : (slave.answers t ((wire desc orc).take s.shifted)).length = s.shifted := by
    have := h.started_le
    rw [Slave.answers_length, List.length_take]
    omega
  have hle : s.stored ≤ s.shifted := Nat.le_add_right _ _
  rw [← htake, ← h.atSlave] at hanswers
  constructor
  case inProgress => rw [hcb, h.inProgress]
  case selected => rw [hselected, h.selected]
  case waiting => rw [hdone, h.waiting]
  case intReady => rw [hint, h.intReady]
  case overrun => rw [hcb, h.overrun]
  case txBuffer => rw [hcb, h.txBuffer]
  case txLength => rw [hcb, h.txLength]
  case rxLength => rw [hcb, h.rxLength]
  case cut => rw [hcb, hstored]; exact h.cut
  case notDone => rw [hstored, hlimit]; exact h.notDone
  case ready =>
    rw [hready, h.ready, List.isEmpty_eq_false_iff.mpr hrxd]
    simp
  case atSlave => rw [hslave, hshifted, htake, slave.behind_concat, ← h.atSlave]
  case pending => rw [htxd', hrest, hstarted, hshifted]
  case shiftedLe => rw [hshifted, hstarted]; exact hlt
  case answered =>
    rw [hheld, hshifted, hstored, hanswers, List.drop_append_of_le_length (by omega), h.answered]
  case memory =>
    rw [hcb, hstored, hshifted, hanswers, h.memory]
    apply receive_congr
    intro i hi
    rw [List.getD_append _ _ _ _ (by omega)]

theorem Transferring.irqEnter_held (h : Transferring slave desc orc t bound s)
    (hready : s.regs.ready = true) (hdata : s.rxData = none) :
    (Driver.irqEnter s).held = s.held := by
  rw [h.ready] at hready
  obtain ⟨data, rest, hrxd⟩ := List.exists_cons_of_ne_nil
    (List.isEmpty_eq_false_iff.mp (by simpa using hready))
  simp [SpiSystem.held, Driver.irqEnter, hdata, hrxd]

/-- The handler takes a byte out of RXD that is held until it is stored. -/
theorem Transferring.irqEnter (h : Transferring slave desc orc t bound s)
    (hready : s.regs.ready = true) (hdata : s.rxData = none) :
    Transferring slave desc orc t bound (irqEnter s) := by
  have hheld := h.irqEnter_held hready hdata
  have hstored : (Driver.irqEnter s).stored = s.stored := rfl
  have hshifted : (Driver.irqEnter s).shifted = s.shifted := by
    rw [SpiSystem.shifted, hheld, hstored, SpiSystem.shifted]
  constructor
  case ready => rfl
  case atSlave => rw [hshifted]; exact h.atSlave
  case pending => rw [hshifted]; exact h.pending
  case shiftedLe => rw [hshifted]; exact h.shiftedLe
  case answered => rw [hheld, hshifted, hstored]; exact h.answered
  case memory => rw [hshifted, hstored]; exact h.memory
  all_goals first
    | exact h.inProgress | exact h.selected | exact h.waiting | exact h.intReady
    | exact h.overrun | exact h.txBuffer | exact h.txLength | exact h.rxLength
    | exact h.cut | exact h.notDone

end Step

end Breadcrumb.Driver
