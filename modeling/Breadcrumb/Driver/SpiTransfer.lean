import Breadcrumb.Driver.SpiProgress

/-!
What a transfer does, however the peripheral, the interrupt handler and other
requests take turns: its outcome, and the number of steps it takes.
-/

namespace Breadcrumb.Driver

open Breadcrumb.Machine

section Outcome

variable {τ : Type} (slave : Slave Byte τ) {s : SpiSystem τ}

/-- One transfer on an idle port, with its peripheral, its interrupts, aborts and further
requests in any order. At every moment the slave has been sent a prefix of the wire; when
the wait loop ends it has been released, the port is idle, and the answers to the prefix are
in the receive buffer, as many as were asked for. The prefix is all of the wire unless there
was an abort. -/
theorem nrfDrvSpiXfer_outcome (hidle : Idle s) (hwait : s.spiXferDone = false)
    (desc : XferDesc) (events : List SpiEvent) :
    let s' := endState (waitStep slave) (nrfDrvSpiXfer slave desc s).2 events
    ∃ count ≤ wireLength desc,
      (.abort ∉ events → s'.spiXferDone = true → count = wireLength desc) ∧
      let t := slave.select s.slave
      let sent := (wire desc s.cb.orc).take count
      if s'.spiXferDone then
        Idle s' ∧ s'.slave = slave.deselect (slave.behind t sent) ∧
          s'.cb.done.pRxBuffer = receive desc count (slave.answers t sent)
      else
        s'.cb.transferInProgress = true ∧ s'.selected = true ∧
          s'.slave = slave.behind t sent ∧ s'.regs.txd.length + s'.held.length ≤ 2 := by
  obtain ⟨-, hstart, habort, -⟩ := hidle.start slave hwait desc
  obtain ⟨bound, hgoing | hdone⟩ := endState_indexed (fun _ => InTransfer slave desc _ _)
    (fun _ _ _ _ _ h => h.wait) 0 ⟨256, .inl hstart⟩ events
  · refine ⟨_, Nat.le_trans (Nat.le_trans hgoing.shiftedLe hgoing.started_le)
      (wire_length desc s.cb.orc).le, fun _ htrue => ?_, ?_⟩
    · rw [hgoing.waiting] at htrue
      cases htrue
    · simp only [hgoing.waiting, Bool.false_eq_true, if_false]
      exact ⟨hgoing.inProgress, hgoing.selected, hgoing.atSlave, hgoing.in_flight⟩
  · refine ⟨min (wireLength desc) bound, Nat.min_le_left _ _, fun hevents htrue => ?_, ?_⟩
    · obtain ⟨hgoing | hall, -⟩ := hstart.wait habort hevents
      · rw [hgoing.waiting] at htrue
        cases htrue
      · exact hdone.stored.symm.trans hall.stored
    · simp only [hdone.done, if_true]
      exact ⟨hdone.idle, hdone.atSlave, hdone.memory⟩

/-- A slave that answers with the byte it was sent before. -/
def echoSlave : Slave Byte Byte := ⟨fun _ => 0xA5, fun t v => (t, v), fun t => t⟩

/-- The port behind `nrf_drv_spi_init`, and a transfer of three bytes. -/
def idlePort {τ : Type} (t : τ) : SpiSystem τ where
  cb := ⟨⟨fun _ => 0, 0, fun _ => 0, 0⟩, false, 0xFF, 0, false⟩
  regs := ⟨[], [], false, false⟩
  rxData := none
  selected := false
  spiXferDone := false
  slave := t

theorem idlePort_idle {τ : Type} (t : τ) : Idle (idlePort t) := ⟨rfl, rfl, rfl, rfl, rfl⟩

/-- An abort behind the first shift leaves two of five bytes. -/
theorem nrfDrvSpiXfer_outcome_aborted :
    let desc : XferDesc := ⟨fun i => BitVec.ofNat 8 (i + 1), 5, fun _ => 0, 5⟩
    let events : List SpiEvent :=
      [.shift, .abort, .irqEnter, .shift, .irqLeave, .transfer desc, .irqEnter, .irqLeave]
    let s' := endState (waitStep echoSlave) (nrfDrvSpiXfer echoSlave desc (idlePort 0)).2 events
    s'.spiXferDone = true ∧ s'.slave = 2 ∧ ∃ count ≤ wireLength desc, Idle s' ∧
      s'.cb.done.pRxBuffer =
        receive desc count (echoSlave.answers 0xA5 ((wire desc 0xFF).take count)) := by
  intro desc events s'
  have hdone : s'.spiXferDone = true := by decide +kernel
  have hslave : s'.slave = 2 := by decide +kernel
  obtain ⟨count, hcount, -, houtcome⟩ :=
    nrfDrvSpiXfer_outcome echoSlave (idlePort_idle 0) rfl desc events
  rw [if_pos hdone] at houtcome
  obtain ⟨hidle, -, hmemory⟩ := houtcome
  refine ⟨hdone, hslave, count, hcount, hidle, ?_⟩
  rw [hmemory]
  rfl

/-- A transfer of `n` bytes takes `3 n` steps of the peripheral and the handler, in whatever
order they come and whatever else is asked for meanwhile, and until then one of them can
always be made. -/
theorem nrfDrvSpiXfer_progress (hidle : Idle s) (hwait : s.spiXferDone = false)
    (desc : XferDesc) (events : List SpiEvent) (hevents : .abort ∉ events) :
    let start := (nrfDrvSpiXfer slave desc s).2
    let s' := endState (waitStep slave) start events
    let work := ((calls (waitStep slave) start events).filter (·.input.works)).length
    work ≤ 3 * wireLength desc ∧
      (s'.spiXferDone = true ↔ work = 3 * wireLength desc) ∧
      (s'.spiXferDone = false →
        ∃ event : SpiEvent, event.works = true ∧ (waitStep slave s' event).isSome = true) ∧
      ∀ c ∈ calls (waitStep slave) start events, ∀ desc', c.input = .transfer desc' →
        c.output = .errorBusy ∧ c.after = c.before := by
  obtain ⟨-, hstart, habort, hzero⟩ := hidle.start slave hwait desc
  obtain ⟨hend, hwork⟩ := hstart.wait habort hevents
  rw [hzero, Nat.zero_add] at hwork
  intro start s' work
  have hrequests : ∀ c ∈ calls (waitStep slave) start events, ∀ desc', c.input = .transfer desc' →
      c.output = .errorBusy ∧ c.after = c.before := by
    intro c hc desc' hinput
    obtain ⟨k, hk⟩ := List.mem_iff_getElem?.mp hc
    obtain ⟨hbefore, -, hcall⟩ := calls_indexed (fun _ => InTransfer slave desc _ _)
      (fun _ _ _ _ _ h => h.wait) 0 ⟨256, .inl hstart⟩ events hk
    rw [hinput] at hcall
    exact hbefore.busy hcall
  rw [show work = s'.work from hwork.symm]
  rcases hend with hgoing | hdone
  · have hlt := hgoing.work_lt
    refine ⟨Nat.le_of_lt hlt, ⟨fun htrue => ?_, fun heq => ?_⟩, fun _ => hgoing.can_work, hrequests⟩
    · rw [hgoing.waiting] at htrue
      cases htrue
    · exact absurd heq (Nat.ne_of_lt hlt)
  · have hall := hdone.work
    refine ⟨Nat.le_of_eq hall, ⟨fun _ => hall, fun _ => hdone.done⟩, fun hfalse => ?_, hrequests⟩
    rw [hdone.done] at hfalse
    cases hfalse

/-- Two bytes in six steps, with a request turned down between them. -/
theorem nrfDrvSpiXfer_progress_two :
    let desc : XferDesc := ⟨fun i => BitVec.ofNat 8 (i + 1), 2, fun _ => 0, 1⟩
    let events : List SpiEvent :=
      [.shift, .irqEnter, .shift, .irqLeave, .transfer desc, .irqEnter, .irqLeave]
    let s' := endState (waitStep echoSlave) (nrfDrvSpiXfer echoSlave desc (idlePort 0)).2 events
    s'.spiXferDone = true ∧
      ((calls (waitStep echoSlave) (nrfDrvSpiXfer echoSlave desc (idlePort 0)).2 events).filter
        (·.input.works)).length = 3 * wireLength desc := by
  intro desc events s'
  have hdone : s'.spiXferDone = true := by decide +kernel
  obtain ⟨-, hiff, -⟩ :=
    nrfDrvSpiXfer_progress echoSlave (idlePort_idle 0) rfl desc events (by simp [events])
  exact ⟨hdone, hiff.mp hdone⟩

end Outcome

end Breadcrumb.Driver
