import Breadcrumb.Driver.SpiWire

/-!
The interrupt handler of a transfer. It stores the byte it has taken, cuts the
transfer off where an abort has been asked for, writes the next byte to TXD,
and ends the transfer with the last byte of the wire.
-/

namespace Breadcrumb.Driver

open Breadcrumb.Machine

/-! What `transfer_byte` does to the descriptor. -/

section Step

variable {τ : Type} {slave : Slave Byte τ} {desc : XferDesc} {orc : Byte} {t : τ} {bound : Nat}
  {s s' : SpiSystem τ}

/-- The descriptor behind one byte more. -/
def nextDesc (rxData : Byte) (cb : SpiControlBlock) : XferDesc :=
  if cb.abort then truncate (cb.bytesTransferred.toNat + 2) (storeByte rxData cb)
  else storeByte rxData cb

/-- The two branches that write TXD write the next byte of the wire, and all three answer
whether there is a byte to wait for. -/
theorem transferByte_eq (rxData : Byte) (hfit : s.stored < 255) :
    transferByte rxData s =
      (decide (s.stored + 1 < wireLength (nextDesc rxData s.cb)),
        { s with
          cb := { s.cb with
            done := nextDesc rxData s.cb
            bytesTransferred := s.cb.bytesTransferred + 1 }
          regs := if s.stored + 2 < wireLength (nextDesc rxData s.cb) then
              nrfSpiTxdSet (wireByte (nextDesc rxData s.cb) s.cb.orc (s.stored + 2)) s.regs
            else s.regs }) := by
  have hcount : (s.cb.bytesTransferred + 1).toNat = s.stored + 1 := by
    unfold SpiSystem.stored at *
    rw [BitVec.toNat_add]
    exact Nat.mod_eq_of_lt (by simpa using (by omega : s.cb.bytesTransferred.toNat + 1 < 256))
  have hused : s.stored + 1 + 1 = s.stored + 2 := rfl
  unfold transferByte
  simp only [hcount, hused]
  have hdesc : (if s.cb.abort = true then truncate (s.stored + 2) (storeByte rxData s.cb)
      else storeByte rxData s.cb) = nextDesc rxData s.cb := rfl
  rw [hdesc]
  generalize nextDesc rxData s.cb = done
  unfold wireLength wireByte
  split
  next htx =>
    rw [if_pos (by omega), decide_eq_true (by omega)]
  next htx =>
    split
    next hrx =>
      rw [if_pos (by omega), decide_eq_true (by omega)]
    next hrx =>
      rw [if_neg (by omega)]
      simp only [BitVec.lt_def, hcount, ← Bool.decide_or, Prod.mk.injEq, decide_eq_decide,
        and_true]
      omega

theorem truncate_length (used : Nat) (length : Byte) :
    (if used < length.toNat then BitVec.ofNat 8 used else length).toNat =
      min length.toNat used := by
  split
  · rw [BitVec.toNat_ofNat, Nat.mod_eq_of_lt (by omega)]
    omega
  · omega

theorem nextDesc_txLength (rxData : Byte) (cb : SpiControlBlock) :
    (nextDesc rxData cb).txLength.toNat =
      min cb.done.txLength.toNat (if cb.abort then cb.bytesTransferred.toNat + 2 else 256) := by
  have hstore : (storeByte rxData cb).txLength = cb.done.txLength := by
    unfold storeByte
    split <;> rfl
  unfold nextDesc
  split
  · rw [truncate, truncate_length, hstore]
  · rw [hstore]
    omega

theorem nextDesc_rxLength (rxData : Byte) (cb : SpiControlBlock) :
    (nextDesc rxData cb).rxLength.toNat =
      min cb.done.rxLength.toNat (if cb.abort then cb.bytesTransferred.toNat + 2 else 256) := by
  have hstore : (storeByte rxData cb).rxLength = cb.done.rxLength := by
    unfold storeByte
    split <;> rfl
  unfold nextDesc
  split
  · rw [truncate, truncate_length, hstore]
  · rw [hstore]
    omega

theorem nextDesc_txBuffer (rxData : Byte) (cb : SpiControlBlock) :
    (nextDesc rxData cb).pTxBuffer = cb.done.pTxBuffer := by
  unfold nextDesc storeByte
  split <;> split <;> rfl

theorem nextDesc_rxBuffer (rxData : Byte) (cb : SpiControlBlock) :
    (nextDesc rxData cb).pRxBuffer =
      if cb.bytesTransferred < cb.done.rxLength then
        Function.update cb.done.pRxBuffer cb.bytesTransferred.toNat rxData
      else cb.done.pRxBuffer := by
  unfold nextDesc storeByte
  split <;> split <;> rfl

/-- One more answer in the receive buffer. -/
theorem receive_succ (answers : List Byte) (count : Nat) :
    receive desc (count + 1) answers =
      if count < desc.rxLength.toNat then
        Function.update (receive desc count answers) count (answers.getD count 0)
      else receive desc count answers := by
  split
  next hlt =>
    funext i
    rcases eq_or_ne i count with rfl | hne
    · rw [Function.update_self, receive, if_pos (by omega)]
    · rw [Function.update_of_ne hne, receive, receive]
      exact if_congr (by omega) rfl rfl
  next hle =>
    funext i
    rw [receive, receive]
    exact if_congr (by omega) rfl rfl

/-! An abort and the end of the wire. -/

/-- Where an abort leaves the end of the transfer, as far as the handler has seen it. -/
def cutOff (bound : Nat) (s : SpiSystem τ) : Nat :=
  if s.cb.abort then min bound (s.stored + 2) else bound

theorem Transferring.bound_range (h : Transferring slave desc orc t bound s) :
    2 ≤ bound ∧ s.stored < bound ∧ bound ≤ 256 := by
  have hlimit := h.notDone
  have hbytes := wireLength_le s.cb.done
  unfold SpiSystem.limit wireLength at *
  rw [h.txLength, h.rxLength] at hlimit hbytes
  rcases h.cut with h256 | ⟨-, htwo, hstored⟩ <;> omega

theorem Transferring.nextDesc_lengths (h : Transferring slave desc orc t bound s) (rxData : Byte) :
    (nextDesc rxData s.cb).txLength.toNat = min desc.txLength.toNat (cutOff bound s) ∧
      (nextDesc rxData s.cb).rxLength.toNat = min desc.rxLength.toNat (cutOff bound s) := by
  have hrange := h.bound_range
  rw [nextDesc_txLength, nextDesc_rxLength, h.txLength, h.rxLength, cutOff]
  unfold SpiSystem.stored at *
  split <;> omega

/-- A cut-off transfer is over where it is cut off. -/
theorem wireLength_cut {desc desc' : XferDesc} (htwo : 2 ≤ bound)
    (htx : desc'.txLength.toNat = min desc.txLength.toNat bound)
    (hrx : desc'.rxLength.toNat = min desc.rxLength.toNat bound) :
    wireLength desc' = min (wireLength desc) bound := by
  unfold wireLength
  omega

/-- As long as there is a byte to send it is the byte of the wire. -/
theorem wireByte_cut {desc desc' : XferDesc} (orc : Byte) (htwo : 2 ≤ bound)
    (htx : desc'.txLength.toNat = min desc.txLength.toNat bound)
    (hrx : desc'.rxLength.toNat = min desc.rxLength.toNat bound)
    (hbuffer : desc'.pTxBuffer = desc.pTxBuffer) {i : Nat} (hi : i < wireLength desc') :
    wireByte desc' orc i = wireByte desc orc i := by
  unfold wireByte
  rw [hbuffer]
  unfold wireLength at hi
  exact if_congr (by omega) rfl rfl

theorem Transferring.stored_lt (h : Transferring slave desc orc t bound s) : s.stored < 255 :=
  Nat.lt_of_lt_of_le h.notDone (wireLength_le _)

theorem Transferring.limit_eq (h : Transferring slave desc orc t bound s) :
    s.limit = min (wireLength desc) bound :=
  wireLength_cut h.bound_range.1 h.txLength h.rxLength

theorem Transferring.cutOff_range (h : Transferring slave desc orc t bound s) :
    2 ≤ cutOff bound s ∧ cutOff bound s ≤ bound ∧
      (cutOff bound s = bound ∨ cutOff bound s = s.stored + 2) := by
  have hrange := h.bound_range
  unfold cutOff
  split <;> omega

/-- Only an abort cuts off, and not behind the byte that is stored next. -/
theorem Transferring.cutOff_cut (h : Transferring slave desc orc t bound s) :
    cutOff bound s = 256 ∨
      s.cb.abort = true ∧ 2 ≤ cutOff bound s ∧ cutOff bound s ≤ s.stored + 1 + 1 := by
  have hrange := h.bound_range
  rw [cutOff]
  split
  next habort => exact .inr ⟨habort, by omega, by omega⟩
  next habort =>
    rcases h.cut with h256 | ⟨hset, -⟩
    · exact .inl h256
    · exact absurd hset habort

theorem Transferring.nextDesc_wireLength (h : Transferring slave desc orc t bound s)
    (rxData : Byte) :
    wireLength (nextDesc rxData s.cb) = min (wireLength desc) (cutOff bound s) := by
  obtain ⟨htx, hrx⟩ := h.nextDesc_lengths rxData
  exact wireLength_cut h.cutOff_range.1 htx hrx

/-- The byte the handler holds is the next answer. -/
theorem Transferring.held_byte (h : Transferring slave desc orc t bound s) {rxData : Byte}
    (hdata : s.rxData = some rxData) :
    (slave.answers t ((wire desc orc).take s.shifted)).getD s.stored 0 = rxData ∧
      s.regs.rxd = (slave.answers t ((wire desc orc).take s.shifted)).drop (s.stored + 1) ∧
      s.shifted = s.stored + 1 + s.regs.rxd.length := by
  have hheld : s.held = rxData :: s.regs.rxd := by rw [SpiSystem.held, hdata]; rfl
  have hdrop := h.answered.symm.trans hheld
  have hshifted : s.shifted = s.stored + 1 + s.regs.rxd.length := by
    rw [SpiSystem.shifted, hheld, List.length_cons]
    omega
  refine ⟨?_, ?_, hshifted⟩
  · have hget := congrArg (·[0]?) hdrop
    simp only [List.getElem?_drop, Nat.add_zero, List.getElem?_cons_zero] at hget
    rw [List.getD_eq_getElem?_getD, hget, Option.getD_some]
  · rw [← List.drop_drop, hdrop, List.drop_one, List.tail_cons]

theorem Transferring.stored_memory (h : Transferring slave desc orc t bound s) {rxData : Byte}
    (hdata : s.rxData = some rxData) :
    (nextDesc rxData s.cb).pRxBuffer =
      receive desc (s.stored + 1) (slave.answers t ((wire desc orc).take s.shifted)) := by
  obtain ⟨hbyte, -, -⟩ := h.held_byte hdata
  have hrange := h.bound_range
  have hneeded : s.cb.bytesTransferred < s.cb.done.rxLength ↔ s.stored < desc.rxLength.toNat := by
    rw [BitVec.lt_def, h.rxLength]
    unfold SpiSystem.stored at *
    omega
  rw [nextDesc_rxBuffer, receive_succ, hbyte, h.memory]
  exact if_congr hneeded rfl rfl

/-! The handler stores a byte. -/

/-- The state behind one byte more. -/
def behindByte (rxData : Byte) (s : SpiSystem τ) : SpiSystem τ :=
  { s with
    rxData := none
    cb := { s.cb with
      done := nextDesc rxData s.cb
      bytesTransferred := s.cb.bytesTransferred + 1 }
    regs := if s.stored + 2 < wireLength (nextDesc rxData s.cb) then
        nrfSpiTxdSet (wireByte (nextDesc rxData s.cb) s.cb.orc (s.stored + 2)) s.regs
      else s.regs }

theorem irqLeave_eq (rxData : Byte) (hfit : s.stored < 255) :
    irqLeave slave rxData s =
      if s.stored + 1 < wireLength (nextDesc rxData s.cb) then behindByte rxData s
      else finishTransfer slave (behindByte rxData s) := by
  unfold irqLeave
  rw [transferByte_eq (s := { s with rxData := none }) rxData hfit]
  simp only [decide_eq_true_eq]
  rfl

theorem behindByte_stored (rxData : Byte) (hfit : s.stored < 255) :
    (behindByte rxData s).stored = s.stored + 1 := by
  change (s.cb.bytesTransferred + 1).toNat = s.stored + 1
  unfold SpiSystem.stored at *
  rw [BitVec.toNat_add]
  exact Nat.mod_eq_of_lt (by simpa using (by omega : s.cb.bytesTransferred.toNat + 1 < 256))

theorem behindByte_rxd (rxData : Byte) :
    (behindByte rxData s).regs.rxd = s.regs.rxd ∧
      (behindByte rxData s).regs.ready = s.regs.ready ∧
      (behindByte rxData s).regs.intReady = s.regs.intReady := by
  unfold behindByte nrfSpiTxdSet
  refine ⟨?_, ?_, ?_⟩ <;> · dsimp only; split <;> rfl

theorem irqLeave_counts (slave : Slave Byte τ) (rxData : Byte) (hfit : s.stored < 255) :
    (irqLeave slave rxData s).stored = s.stored + 1 ∧
      (irqLeave slave rxData s).held = s.regs.rxd ∧
      (irqLeave slave rxData s).rxData = none := by
  have hstored := behindByte_stored (s := s) rxData hfit
  have hheld : (behindByte rxData s).held = s.regs.rxd := (behindByte_rxd (s := s) rxData).1
  rw [irqLeave_eq rxData hfit]
  split <;> exact ⟨hstored, hheld, rfl⟩

theorem Transferring.behindByte_counts (h : Transferring slave desc orc t bound s) {rxData : Byte}
    (hdata : s.rxData = some rxData) :
    (behindByte rxData s).stored = s.stored + 1 ∧ (behindByte rxData s).shifted = s.shifted ∧
      (behindByte rxData s).held = s.regs.rxd := by
  obtain ⟨-, -, hshifted⟩ := h.held_byte hdata
  have hstored' := behindByte_stored (s := s) rxData h.stored_lt
  have hheld' : (behindByte rxData s).held = s.regs.rxd := (behindByte_rxd (s := s) rxData).1
  exact ⟨hstored', by rw [SpiSystem.shifted, hstored', hheld', hshifted], hheld'⟩

/-- The handler keeps TXD one byte ahead of the peripheral and never fills it. -/
theorem Transferring.behindByte_txd (h : Transferring slave desc orc t bound s) {rxData : Byte}
    (hdata : s.rxData = some rxData) :
    (behindByte rxData s).regs.txd =
      ((wire desc orc).take (min (wireLength (nextDesc rxData s.cb)) (s.stored + 3))).drop
        s.shifted := by
  obtain ⟨htx, hrx⟩ := h.nextDesc_lengths rxData
  obtain ⟨-, -, hshifted⟩ := h.held_byte hdata
  have hrange := h.bound_range
  have hcut := h.cutOff_range
  have hlimit := h.limit_eq
  have hnext := h.nextDesc_wireLength rxData
  have hle := h.shiftedLe
  have hnotDone := h.notDone
  unfold SpiSystem.started at hle
  change (if _ then _ else s.regs : SpiRegisters).txd = _
  split
  next hmore =>
    have hstarted : s.started = s.stored + 2 := by unfold SpiSystem.started; omega
    have hroom : s.regs.txd.length < 2 := by
      rw [h.pending, List.length_drop, List.length_take, hstarted]
      omega
    have hbyte := wireByte_cut orc hcut.1 htx hrx
      ((nextDesc_txBuffer rxData s.cb).trans h.txBuffer) hmore
    have hwire : s.stored + 2 < (wire desc orc).length := by rw [wire_length]; omega
    rw [nrfSpiTxdSet, if_pos hroom, h.overrun, hbyte, h.pending, hstarted,
      Nat.min_eq_right (by omega), List.take_succ_eq_append_getElem hwire,
      List.drop_append_of_le_length (by rw [List.length_take]; omega), wire_getElem]
  next hmore =>
    have hstarted : s.started = min (wireLength (nextDesc rxData s.cb)) (s.stored + 3) := by
      unfold SpiSystem.started
      omega
    rw [h.pending, hstarted]

/-- A byte is stored and there is another to wait for: the transfer goes on. -/
theorem Transferring.goes_on (h : Transferring slave desc orc t bound s) {rxData : Byte}
    (hdata : s.rxData = some rxData) (hmore : s.stored + 1 < wireLength (nextDesc rxData s.cb)) :
    Transferring slave desc orc t (cutOff bound s) (behindByte rxData s) := by
  obtain ⟨htx, hrx⟩ := h.nextDesc_lengths rxData
  obtain ⟨-, hrxd, hshifted⟩ := h.held_byte hdata
  obtain ⟨hrxd', hready', hint'⟩ := behindByte_rxd (s := s) rxData
  obtain ⟨hstored', hshifted', hheld'⟩ := h.behindByte_counts hdata
  have hstarted' : (behindByte rxData s).started =
      min (wireLength (nextDesc rxData s.cb)) (s.stored + 3) := by
    rw [SpiSystem.started, hstored']
    rfl
  constructor
  case inProgress => exact h.inProgress
  case selected => exact h.selected
  case waiting => exact h.waiting
  case intReady => rw [hint']; exact h.intReady
  case overrun => exact h.overrun
  case txBuffer => exact (nextDesc_txBuffer rxData s.cb).trans h.txBuffer
  case txLength => exact htx
  case rxLength => exact hrx
  case cut => rw [hstored']; exact h.cutOff_cut
  case notDone => rw [hstored']; exact hmore
  case ready => rw [hready', hrxd']; exact h.ready
  case atSlave => rw [hshifted']; exact h.atSlave
  case pending => rw [hshifted', hstarted']; exact h.behindByte_txd hdata
  case shiftedLe =>
    have hle := h.shiftedLe
    have hlimit := h.limit_eq
    have hnext := h.nextDesc_wireLength rxData
    have hcut := h.cutOff_range
    rw [hshifted', hstarted']
    unfold SpiSystem.started at hle
    omega
  case answered => rw [hheld', hshifted', hstored', hrxd]
  case memory => rw [hshifted', hstored']; exact h.stored_memory hdata

/-- The last byte of the wire is stored: the slave is released. -/
theorem Transferring.ends (h : Transferring slave desc orc t bound s) {rxData : Byte}
    (hdata : s.rxData = some rxData)
    (hlast : ¬ s.stored + 1 < wireLength (nextDesc rxData s.cb)) :
    Completed slave desc orc t (min (wireLength desc) (cutOff bound s))
      (finishTransfer slave (behindByte rxData s)) := by
  obtain ⟨-, -, hshifted⟩ := h.held_byte hdata
  obtain ⟨hrxd', -, -⟩ := behindByte_rxd (s := s) rxData
  obtain ⟨hstored', -, -⟩ := h.behindByte_counts hdata
  have hnext := h.nextDesc_wireLength rxData
  have hlimit := h.limit_eq
  have hcut := h.cutOff_range
  have hnotDone := h.notDone
  have hle := h.shiftedLe
  unfold SpiSystem.started at hle
  have hshiftedEq : s.shifted = s.stored + 1 := by omega
  have hcount : min (wireLength desc) (cutOff bound s) = s.stored + 1 := by omega
  constructor
  case idle =>
    refine ⟨rfl, rfl, rfl, ?_, ?_⟩
    · change (behindByte rxData s).regs.txd = []
      rw [h.behindByte_txd hdata, hshiftedEq]
      apply List.drop_eq_nil_of_le
      rw [List.length_take]
      omega
    · change (behindByte rxData s).regs.rxd = []
      rw [hrxd']
      apply List.eq_nil_of_length_eq_zero
      omega
  case done => rfl
  case stored => rw [hcount]; exact hstored'
  case overrun => exact h.overrun
  case atSlave =>
    change slave.deselect s.slave = _
    rw [hcount, h.atSlave, hshiftedEq]
  case memory =>
    change (nextDesc rxData s.cb).pRxBuffer = _
    rw [hcount, h.stored_memory hdata, hshiftedEq]

/-- The handler stores the byte it holds; with the last byte of the wire it ends the
transfer. -/
theorem Transferring.irqLeave (h : Transferring slave desc orc t bound s) {rxData : Byte}
    (hdata : s.rxData = some rxData) :
    Transferring slave desc orc t (cutOff bound s) (irqLeave slave rxData s) ∨
      Completed slave desc orc t (min (wireLength desc) (cutOff bound s))
        (irqLeave slave rxData s) := by
  rw [irqLeave_eq rxData h.stored_lt]
  split
  next hmore => exact .inl (h.goes_on hdata hmore)
  next hlast => exact .inr (h.ends hdata hlast)

/-! What an event can do. -/

/-- What an event does during a transfer, and when it can come. -/
theorem Transferring.step_cases (h : Transferring slave desc orc t bound s) {event : SpiEvent}
    {code : RetCode} (hstep : spiStep slave s event = some (code, s')) :
    (event = .shift ∧ shiftByte slave s = some s') ∨
      (event = .irqEnter ∧ s.regs.ready = true ∧ s.rxData = none ∧ s' = Driver.irqEnter s) ∨
      (∃ rxData, event = .irqLeave ∧ s.rxData = some rxData ∧
        s' = Driver.irqLeave slave rxData s) ∨
      (∃ desc', event = .transfer desc' ∧ code = .errorBusy ∧ s' = s) ∨
      (event = .abort ∧ s' = { s with cb := { s.cb with abort := true } }) := by
  cases event with
  | shift =>
      obtain ⟨s₁, hshift, heq⟩ := Option.map_eq_some_iff.mp hstep
      cases heq
      exact .inl ⟨rfl, hshift⟩
  | irqEnter =>
      change (if _ then _ else _) = _ at hstep
      split at hstep
      next henter =>
        cases hstep
        exact .inr (.inl ⟨rfl, henter.2.1, henter.2.2, rfl⟩)
      · cases hstep
  | irqLeave =>
      obtain ⟨rxData, hdata, heq⟩ := Option.map_eq_some_iff.mp hstep
      cases heq
      exact .inr (.inr (.inl ⟨rxData, rfl, hdata, rfl⟩))
  | transfer desc' =>
      change (if _ then _ else _) = _ at hstep
      split at hstep
      · rw [nrfDrvSpiXfer, if_pos h.inProgress] at hstep
        cases hstep
        exact .inr (.inr (.inr (.inl ⟨desc', rfl, rfl, rfl⟩)))
      · cases hstep
  | abort =>
      cases hstep
      exact .inr (.inr (.inr (.inr ⟨rfl, rfl⟩)))

/-- Whatever happens next, the transfer goes on or is done. -/
theorem Transferring.step (h : Transferring slave desc orc t bound s) {event : SpiEvent}
    {code : RetCode} (hstep : spiStep slave s event = some (code, s')) :
    ∃ bound', (s.cb.abort = false → bound' = bound) ∧
      (Transferring slave desc orc t bound' s' ∨
        Completed slave desc orc t (min (wireLength desc) bound') s') := by
  obtain ⟨rfl, hshift⟩ | ⟨rfl, hready, hdata, rfl⟩ | ⟨rxData, rfl, hdata, rfl⟩ |
    ⟨desc', rfl, rfl, rfl⟩ | ⟨rfl, rfl⟩ := h.step_cases hstep
  · exact ⟨bound, fun _ => rfl, .inl (h.shift hshift)⟩
  · exact ⟨bound, fun _ => rfl, .inl (h.irqEnter hready hdata)⟩
  · refine ⟨cutOff bound s, ?_, h.irqLeave hdata⟩
    intro habort
    rw [cutOff, habort]
    rfl
  · exact ⟨bound, fun _ => rfl, .inl h⟩
  · refine ⟨bound, fun _ => rfl, .inl { h with cut := ?_ }⟩
    rcases h.cut with h256 | ⟨-, hcut⟩
    · exact .inl h256
    · exact .inr ⟨rfl, hcut⟩

end Step

end Breadcrumb.Driver
