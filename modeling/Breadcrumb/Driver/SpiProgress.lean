import Breadcrumb.Driver.SpiHandler

/-!
A transfer from its start to its end. Every step of the peripheral or of the
handler brings it on, one of them is always possible, and further requests are
turned down meanwhile.
-/

namespace Breadcrumb.Driver

open Breadcrumb.Machine

/-! The start. -/

section Step

variable {τ : Type} {slave : Slave Byte τ} {desc : XferDesc} {orc : Byte} {t : τ} {bound : Nat}
  {s s' : SpiSystem τ}

/-- Two bytes are written ahead if there are two. -/
theorem spiXfer_txd (desc : XferDesc) (htxd : s.regs.txd = []) :
    (spiXfer desc s).regs.txd = (wire desc s.cb.orc).take 2 := by
  have hzero : (0 : Byte).toNat = 0 := rfl
  have hone : (1 : Byte).toNat = 1 := rfl
  have hfirst : (if desc.txLength > 0 then desc.pTxBuffer 0 else s.cb.orc) =
      wireByte desc s.cb.orc 0 := by
    unfold wireByte
    exact if_congr (by rw [GT.gt, BitVec.lt_def, hzero]) rfl rfl
  unfold spiXfer
  rw [hfirst]
  simp only [GT.gt, BitVec.lt_def, hone]
  rcases Nat.lt_or_ge 1 (wireLength desc) with htwo | hone
  · have hwire : (wire desc s.cb.orc).take 2 =
        [wireByte desc s.cb.orc 0, wireByte desc s.cb.orc 1] := by
      rw [wire, ← List.map_take, List.take_range, Nat.min_eq_left htwo]
      rfl
    rw [hwire]
    unfold wireLength at htwo
    split
    next htx => simp [nrfSpiTxdSet, htxd, wireByte, htx]
    next htx =>
      rw [if_pos (by omega)]
      simp [nrfSpiTxdSet, htxd, wireByte, htx]
  · have hwire : (wire desc s.cb.orc).take 2 = [wireByte desc s.cb.orc 0] := by
      rw [wire, ← List.map_take, List.take_range, Nat.min_eq_right (by omega),
        show wireLength desc = 1 by unfold wireLength at *; omega]
      rfl
    rw [hwire]
    unfold wireLength at hone
    rw [if_neg (by omega), if_neg (by omega)]
    simp [nrfSpiTxdSet, htxd]

theorem spiXfer_regs (desc : XferDesc) :
    (spiXfer desc s).regs.rxd = s.regs.rxd ∧ (spiXfer desc s).regs.ready = false ∧
      (spiXfer desc s).regs.intReady = true := by
  unfold spiXfer
  dsimp only
  split
  · exact ⟨rfl, rfl, rfl⟩
  · split <;> exact ⟨rfl, rfl, rfl⟩

/-- An idle port takes the request. -/
theorem Idle.start (slave : Slave Byte τ) (h : Idle s) (hwait : s.spiXferDone = false)
    (desc : XferDesc) :
    (nrfDrvSpiXfer slave desc s).1 = .success ∧
      Transferring slave desc s.cb.orc (slave.select s.slave) 256 (nrfDrvSpiXfer slave desc s).2 ∧
      (nrfDrvSpiXfer slave desc s).2.cb.abort = false ∧
      (nrfDrvSpiXfer slave desc s).2.work = 0 := by
  rw [nrfDrvSpiXfer, if_neg (by rw [h.inProgress]; exact Bool.false_ne_true)]
  generalize hs₁ : ({ s with
      cb := { s.cb with transferInProgress := true, done := desc, abort := false }
      selected := true
      slave := slave.select s.slave } : SpiSystem τ) = s₁
  have htxd := spiXfer_txd (s := s₁) desc (by rw [← hs₁]; exact h.txd)
  obtain ⟨hrxd, hready, hint⟩ := spiXfer_regs (s := s₁) desc
  have hheld : (spiXfer desc s₁).held = [] := by
    rw [SpiSystem.held, hrxd, ← hs₁]
    change s.rxData.toList ++ s.regs.rxd = []
    rw [h.rxData, h.rxd]
    rfl
  have hstored : (spiXfer desc s₁).stored = 0 := rfl
  have hshifted : (spiXfer desc s₁).shifted = 0 := by
    rw [SpiSystem.shifted, hheld, hstored]
    rfl
  subst hs₁
  have htake : (wire desc s.cb.orc).take 2 =
      (wire desc s.cb.orc).take (min (wireLength desc) 2) := by
    rw [List.take_eq_take_min, wire_length, Nat.min_comm]
  refine ⟨rfl, ?_, rfl, ?work⟩
  case work =>
    rw [SpiSystem.work, hshifted, hstored]
    change 0 + (0 + s.rxData.toList.length) + 0 = 0
    rw [h.rxData]
    rfl
  constructor
  case txLength => change desc.txLength.toNat = _; omega
  case rxLength => change desc.rxLength.toNat = _; omega
  case cut => exact .inl rfl
  case notDone =>
    change 0 < wireLength desc
    unfold wireLength
    omega
  case intReady => exact hint
  case ready =>
    rw [hready, hrxd]
    change false = !s.regs.rxd.isEmpty
    rw [h.rxd]
    rfl
  case atSlave => rw [hshifted]; rfl
  case pending => rw [hshifted, htxd, List.drop_zero]; exact htake
  case shiftedLe => rw [hshifted]; exact Nat.zero_le _
  case answered => rw [hheld, hshifted]; rfl
  case memory =>
    rw [hstored]
    funext i
    exact (if_neg (by omega)).symm
  all_goals first | rfl | exact hwait

/-! Steps that carry a transfer on. -/

/-- The steps that carry a transfer on. -/
def SpiEvent.works : SpiEvent → Bool
  | .shift | .irqEnter | .irqLeave => true
  | .transfer _ | .abort => false

theorem Transferring.step_work (h : Transferring slave desc orc t bound s) {event : SpiEvent}
    {code : RetCode} (hstep : spiStep slave s event = some (code, s')) :
    s'.work = s.work + event.works.toNat := by
  obtain ⟨rfl, hshift⟩ | ⟨rfl, hready, hdata, rfl⟩ | ⟨rxData, rfl, hdata, rfl⟩ |
    ⟨desc', rfl, rfl, rfl⟩ | ⟨rfl, rfl⟩ := h.step_cases hstep
  · obtain ⟨data, rest, -, -, hheld, -, -, -, -, hcb, hdata, -, -⟩ := shiftByte_spec hshift
    simp only [SpiSystem.work, SpiSystem.shifted, SpiSystem.stored, hheld, hcb, hdata,
      List.length_append, List.length_singleton, SpiEvent.works, Bool.toNat_true]
    omega
  · have hheld := h.irqEnter_held hready hdata
    change (s.stored + (Driver.irqEnter s).held.length) + (s.stored + 1) + s.stored =
      (s.stored + s.held.length) + (s.stored + s.rxData.toList.length) + s.stored + 1
    rw [hheld, hdata, Option.toList_none, List.length_nil]
    omega
  · obtain ⟨hstored, hheld, hnone⟩ := irqLeave_counts slave rxData h.stored_lt
    obtain ⟨-, -, hshifted⟩ := h.held_byte hdata
    rw [SpiSystem.shifted] at hshifted
    simp only [SpiSystem.work, SpiSystem.shifted, hstored, hheld, hnone, hdata,
      Option.toList_none, Option.toList_some, List.length_nil, List.length_singleton,
      SpiEvent.works, Bool.toNat_true]
    omega
  · rfl
  · rfl

theorem Completed.work {count : Nat} (h : Completed slave desc orc t count s) :
    s.work = 3 * count := by
  have hheld : s.held = [] := by rw [SpiSystem.held, h.idle.rxData, h.idle.rxd]; rfl
  rw [SpiSystem.work, SpiSystem.shifted, hheld, h.idle.rxData, h.stored]
  simp only [List.length_nil, Option.toList_none]
  omega

/-- A transfer is never stuck: a byte is stored, or taken, or shifted. -/
theorem Transferring.can_work (h : Transferring slave desc orc t bound s) :
    ∃ event : SpiEvent, event.works = true ∧ (waitStep slave s event).isSome = true := by
  simp only [waitStep, h.waiting, Bool.false_eq_true, if_false]
  cases hdata : s.rxData with
  | some rxData => exact ⟨.irqLeave, rfl, by simp [spiStep, hdata]⟩
  | none =>
      cases hrxd : s.regs.rxd with
      | cons data rest =>
          refine ⟨.irqEnter, rfl, ?_⟩
          simp [spiStep, hdata, h.intReady, h.ready, hrxd]
      | nil =>
          refine ⟨.shift, rfl, ?_⟩
          have hheld : s.held = [] := by rw [SpiSystem.held, hdata, hrxd]; rfl
          have hshifted : s.shifted = s.stored := by rw [SpiSystem.shifted, hheld]; rfl
          have hstarted : s.stored < s.started := by
            have := h.notDone
            unfold SpiSystem.started
            omega
          have hle := h.started_le
          obtain ⟨data, rest, htxd⟩ : ∃ data rest, s.regs.txd = data :: rest := by
            rw [h.pending, hshifted]
            apply List.exists_cons_of_ne_nil
            apply List.ne_nil_of_length_pos
            rw [List.length_drop, List.length_take]
            omega
          simp [spiStep, shiftByte, htxd, hrxd]

theorem Transferring.step_abort (h : Transferring slave desc orc t bound s) {event : SpiEvent}
    {code : RetCode} (hstep : spiStep slave s event = some (code, s')) (hevent : event ≠ .abort) :
    s'.cb.abort = s.cb.abort := by
  obtain ⟨rfl, hshift⟩ | ⟨rfl, -, -, rfl⟩ | ⟨rxData, rfl, hdata, rfl⟩ | ⟨desc', rfl, rfl, rfl⟩ |
    ⟨rfl, rfl⟩ := h.step_cases hstep
  · obtain ⟨data, rest, -, -, -, -, -, -, -, hcb, -⟩ := shiftByte_spec hshift
    rw [hcb]
  · rfl
  · rw [irqLeave_eq rxData h.stored_lt]
    split <;> rfl
  · rfl
  · exact absurd rfl hevent

/-! The wait loop. -/

/-- The wait loop ends with the transfer. -/
theorem Completed.wait {count : Nat} (h : Completed slave desc orc t count s)
    (events : List SpiEvent) :
    endState (waitStep slave) s events = s ∧ calls (waitStep slave) s events = [] := by
  cases events with
  | nil => exact ⟨rfl, rfl⟩
  | cons event events =>
      have hstop : waitStep slave s event = none := by rw [waitStep, if_pos h.done]
      exact ⟨endState_cons_none hstop, calls_cons_none hstop⟩

theorem Transferring.spiStep_of_wait (h : Transferring slave desc orc t bound s) {event : SpiEvent}
    {code : RetCode} (hwait : waitStep slave s event = some (code, s')) :
    spiStep slave s event = some (code, s') := by
  simpa only [waitStep, h.waiting, Bool.false_eq_true, if_false] using hwait

/-- A run of the wait loop without an abort: the transfer goes on and every step of the
peripheral or the handler brings it on, or it is done behind three steps for each byte. -/
theorem Transferring.wait (h : Transferring slave desc orc t 256 s) (habort : s.cb.abort = false)
    {events : List SpiEvent} (hevents : .abort ∉ events) :
    (Transferring slave desc orc t 256 (endState (waitStep slave) s events) ∨
      Completed slave desc orc t (wireLength desc) (endState (waitStep slave) s events)) ∧
    (endState (waitStep slave) s events).work =
      s.work + ((calls (waitStep slave) s events).filter (·.input.works)).length := by
  induction events generalizing s with
  | nil => exact ⟨.inl h, rfl⟩
  | cons event events ih =>
      cases hwait : waitStep slave s event with
      | none => simp [endState_cons_none hwait, calls_cons_none hwait, h]
      | some result =>
          obtain ⟨code, s'⟩ := result
          have hstep := h.spiStep_of_wait hwait
          obtain ⟨hevent, hrest⟩ := List.ne_and_not_mem_of_not_mem_cons hevents
          obtain ⟨bound', hbound, hnext⟩ := h.step hstep
          rw [hbound habort] at hnext
          have hwork : s'.work = s.work + ([⟨s, event, code, s'⟩].filter
              fun c : Call (SpiSystem τ) SpiEvent RetCode => c.input.works).length := by
            rw [h.step_work hstep]
            cases hworks : event.works <;> simp [hworks]
          rw [endState_cons_some hwait, calls_cons_some hwait, ← List.singleton_append,
            List.filter_append, List.length_append, ← Nat.add_assoc, ← hwork]
          rcases hnext with hgoing | hdone
          · exact ih hgoing ((h.step_abort hstep hevent.symm).trans habort) hrest
          · obtain ⟨hend, hcalls⟩ := hdone.wait events
            have hcount : min (wireLength desc) 256 = wireLength desc :=
              Nat.min_eq_left (by have := wireLength_le desc; omega)
            rw [hend, hcalls]
            exact ⟨.inr (hcount ▸ hdone), rfl⟩

/-- Neither TXD nor RXD ever has to hold a third byte. -/
theorem Transferring.in_flight (h : Transferring slave desc orc t bound s) :
    s.regs.txd.length + s.held.length ≤ 2 := by
  have hstarted : s.started ≤ s.stored + 2 := Nat.min_le_right _ _
  have hle := h.shiftedLe
  have htake := h.started_le
  rw [h.pending, List.length_drop, List.length_take]
  unfold SpiSystem.shifted at hle ⊢
  omega

theorem Transferring.work_lt (h : Transferring slave desc orc t bound s) :
    s.work < 3 * wireLength desc := by
  have hnotDone := h.notDone
  have hle := h.shiftedLe
  have hstarted := h.started_le
  have hlimit : s.started ≤ s.limit := Nat.min_le_left _ _
  have hentered : s.stored + s.rxData.toList.length ≤ s.shifted := by
    rw [SpiSystem.shifted, SpiSystem.held, List.length_append]
    omega
  have hbound : s.limit ≤ wireLength desc := by
    unfold SpiSystem.limit wireLength
    rw [h.txLength, h.rxLength]
    omega
  unfold SpiSystem.work
  omega

/-- Some order of events brings a transfer to its end. -/
theorem Transferring.finishes (h : Transferring slave desc orc t 256 s)
    (habort : s.cb.abort = false) :
    ∃ events : List SpiEvent, .abort ∉ events ∧
      (endState (waitStep slave) s events).spiXferDone = true := by
  have hlt := h.work_lt
  generalize hleft : 3 * wireLength desc - s.work = left
  induction left generalizing s with
  | zero => omega
  | succ left ih =>
      obtain ⟨event, hworks, hsome⟩ := h.can_work
      obtain ⟨⟨code, s'⟩, hwait⟩ := Option.isSome_iff_exists.mp hsome
      have hstep := h.spiStep_of_wait hwait
      have hevent : event ≠ .abort := by
        rintro rfl
        cases hworks
      obtain ⟨bound', hbound, hgoing | hdone⟩ := h.step hstep
      · rw [hbound habort] at hgoing
        have hwork := h.step_work hstep
        rw [hworks, Bool.toNat_true] at hwork
        obtain ⟨events, hnone, hend⟩ := ih hgoing ((h.step_abort hstep hevent).trans habort)
          hgoing.work_lt (by omega)
        refine ⟨event :: events, ?_, by rw [endState_cons_some hwait]; exact hend⟩
        rw [List.mem_cons, not_or]
        exact ⟨hevent.symm, hnone⟩
      · refine ⟨[event], ?_, by rw [endState_cons_some hwait, endState_nil, hdone.done]⟩
        rw [List.mem_singleton]
        exact hevent.symm

/-- What holds of a transfer whatever comes of it, aborts included. -/
def InTransfer (slave : Slave Byte τ) (desc : XferDesc) (orc : Byte) (t : τ)
    (s : SpiSystem τ) : Prop :=
  ∃ bound, Transferring slave desc orc t bound s ∨
    Completed slave desc orc t (min (wireLength desc) bound) s

theorem InTransfer.wait (h : InTransfer slave desc orc t s) {event : SpiEvent} {code : RetCode}
    (hwait : waitStep slave s event = some (code, s')) : InTransfer slave desc orc t s' := by
  obtain ⟨bound, hgoing | hdone⟩ := h
  · obtain ⟨bound', -, hnext⟩ := hgoing.step (hgoing.spiStep_of_wait hwait)
    exact ⟨bound', hnext⟩
  · rw [waitStep, if_pos hdone.done] at hwait
    cases hwait

/-- A request that comes in during a transfer is turned down and changes nothing. -/
theorem InTransfer.busy (h : InTransfer slave desc orc t s) {desc' : XferDesc} {code : RetCode}
    (hwait : waitStep slave s (.transfer desc') = some (code, s')) :
    code = .errorBusy ∧ s' = s := by
  obtain ⟨bound, hgoing | hdone⟩ := h
  · obtain ⟨hevent, -⟩ | ⟨hevent, -⟩ | ⟨_, hevent, -⟩ | ⟨desc', -, hcode, hsame⟩ | ⟨hevent, -⟩ :=
      hgoing.step_cases (hgoing.spiStep_of_wait hwait)
    · cases hevent
    · cases hevent
    · cases hevent
    · exact ⟨hcode, hsame⟩
    · cases hevent
  · rw [waitStep, if_pos hdone.done] at hwait
    cases hwait

end Step

end Breadcrumb.Driver
