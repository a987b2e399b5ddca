import Breadcrumb.Driver.RangingRuns
import Breadcrumb.Driver.Transaction

/-!
`ss_init_run` through the SPI. Headers, port buffers and interrupts carry its
accesses in any order of events, and it is still the function for the words
the chip answers.
-/

namespace Breadcrumb.Driver

open Breadcrumb.Machine
open Breadcrumb.Uwb hiding ssInitRun finishRun readFrame readRanging dwtWrite32bitreg
  dwtWrite8bitoffsetreg dwtWritetxdata dwtWritetxfctrl dwtRxreset dwtRead32bitreg
  dwtReadtxtimestamplo32 dwtReadrxtimestamplo32 dwtReadcarrierintegrator

section Wire

variable {F D δ : Type} [CFloat F] [CDouble F D]

/-- The accesses a header can say and the port can carry. -/
abbrev OnWire {α : Type} (p : Bus α) : Prop :=
  p.Touches Addressable fun a buffer => Addressable a buffer.length

omit [CFloat F] [CDouble F D] in
theorem sendPoll_onWire (l : DwtLocalData) (s : Initiator D) : OnWire (sendPoll l s) := by
  have hdata : (bytes s.txPollMsg).length = 12 := bytes_length _
  have htake : ((bytes s.txPollMsg).take 10).length = 10 := by
    rw [List.length_take, hdata]
    rfl
  simp only [sendPoll, dwtWritetxdata, hdata]
  refine ⟨by decide, ?_, ?_, by decide, by decide, trivial⟩
  · change Addressable _ ((bytes s.txPollMsg).take 10).length
    rw [htake]
    decide
  · change Addressable _ (leBytes 4 _).length
    rw [leBytes_length]
    decide

theorem waitEvent_onWire (fuel : Nat) : OnWire (waitEvent fuel) := by
  induction fuel with
  | zero => trivial
  | succ fuel ih =>
      apply BusProgram.touches_bind
      · exact ⟨by decide, fun _ _ => trivial⟩
      · intro statusReg
        split
        · trivial
        · exact ih

theorem fetchFrame_onWire (frameLen : Nat) (rxBuffer : Buffer 20) :
    OnWire (fetchFrame frameLen rxBuffer) := by
  unfold fetchFrame
  split
  next hfits =>
    have hshort : frameLen ≤ 252 := Nat.le_trans hfits (by decide)
    exact ⟨⟨by decide, by decide, hshort⟩, fun _ _ => trivial⟩
  next => trivial

omit [CFloat F] [CDouble F D] in
theorem readFrame_onWire (s : Initiator D) : OnWire (readFrame s) := by
  apply BusProgram.touches_bind
  · exact ⟨by decide, fun _ _ => trivial⟩
  · intro rxFinfo
    exact BusProgram.touches_bind (fetchFrame_onWire _ _) fun _ => trivial

omit [CFloat F] [CDouble F D] in
theorem readRanging_onWire (s : Initiator D) : OnWire (readRanging s) :=
  ⟨by decide, fun _ _ => ⟨by decide, fun _ _ => ⟨by decide, fun _ _ => trivial⟩⟩⟩

theorem takeFrame_onWire (s : Initiator D) : OnWire (takeFrame s) := by
  apply BusProgram.touches_bind (readFrame_onWire s)
  intro s
  unfold takeRange
  split
  · exact BusProgram.touches_bind (readRanging_onWire s) fun _ => trivial
  · trivial

theorem finishRun_onWire (status : Word32) (s : Initiator D) : OnWire (finishRun status s) := by
  unfold finishRun
  dsimp only
  split
  · apply BusProgram.touches_bind
    · exact ⟨by decide, trivial⟩
    · exact fun _ => BusProgram.touches_bind (takeFrame_onWire _) fun _ => trivial
  · exact ⟨by decide, by decide, by decide, trivial⟩

theorem ssInitRun_onWire (fuel : Nat) (l : DwtLocalData) (s : Initiator D) :
    OnWire (ssInitRun fuel l s) := by
  refine BusProgram.touches_bind (sendPoll_onWire l _) fun l => ?_
  refine BusProgram.touches_bind (waitEvent_onWire fuel) fun status => ?_
  cases status with
  | none => trivial
  | some status => exact BusProgram.touches_bind (finishRun_onWire status _) fun _ => trivial

/-- A call through the SPI can be executed, and under every order of interrupts it is
`ss_init_run` on the words the chip answers: it reads SYS_STATUS up to the first hit and then the
registers of a good frame, it makes the writes of `ss_init_run`, and what keeps it from returning
are `fuel` words of SYS_STATUS without a hit. -/
theorem ssInitRun_over_spi (chip : Chip δ) (fuel : Nat) {l : DwtLocalData}
    (hl : l.txFCTRL = txFctrl) (s : Initiator D) {port : SpiSystem (DwFront δ)} {d : δ}
    (hrest : AtRest port d) :
    let reads := (ssInitRun fuel l s).reads chip.device d
    let radio := radioOfReads reads
    (∃ result port', Exec (spiCarrier chip) (ssInitRun fuel l s) port result port') ∧
      reads.map extent = callReads s radio ∧
      (ssInitRun fuel l s).writes chip.device d = (callWrites s radio).map busWrite ∧
      waitStatus radio.status.dropLast = none ∧
      ∀ result port', Exec (spiCarrier chip) (ssInitRun fuel l s) port result port' →
        result = (Uwb.ssInitRun s radio).map (fun x =>
          (x.1.report, x.2, { l with wait4resp := 1 })) ∧
        (result = none ↔
          radio.status.length = fuel ∧ ∀ word ∈ radio.status, word &&& waitMask = 0) ∧
        AtRest port' ((ssInitRun fuel l s).run chip.device d).2 := by
  intro reads radio
  have hsim := spiCarrier_simulates chip
  have hwire := ssInitRun_onWire fuel l s
  obtain ⟨hresult, hwrites, hreads, hearlier, hlength⟩ := ssInitRun_run chip.device fuel hl s d
  refine ⟨hsim.exec_total hwire hrest, hreads, hwrites, hearlier, fun result port' hexec => ?_⟩
  obtain ⟨heq, hrest'⟩ := hsim.exec_eq_run hwire hrest hexec
  have hcall := heq.trans hresult
  have hnone : result = none ↔ waitStatus radio.status = none := by
    rw [hcall, Option.map_eq_none_iff, Uwb.ssInitRun, Option.map_eq_none_iff]
  refine ⟨hcall, ⟨fun hstays => ?_, fun hmiss => ?_⟩, hrest'⟩
  · have hnoHit := hnone.mp hstays
    exact ⟨hlength hnoHit, firstHit_eq_none.mp hnoHit⟩
  · exact hnone.mpr (firstHit_eq_none.mpr hmiss.2)

end Wire

/-- The local data once the device is configured, with everything else zero. -/
def configuredData : DwtLocalData where
  partID := 0
  lotID := 0
  longFrames := 0
  otprev := 0
  txFCTRL := txFctrl
  initXtrim := 0
  dblbuffon := 0
  sysCFGreg := 0
  sleepMode := 0
  wait4resp := 0

/-- A response of node 1 has come in. -/
def respondedRegisters : RegisterFile :=
  RegisterFile.pokes (fun _ => 0)
    [(⟨sysStatusId, 0⟩, leBytes 4 sysStatusRxfcg), (⟨rxFinfoId, 0⟩, [20, 0, 0, 0]),
      (⟨rxBufferId, 0⟩, [0x41, 0x88, 7, 0xCA, 0xDE, chr 'R', chr 'Y', chr 'P', chr 'U', 0xE1,
        0x64, 0, 0, 0, 0xD4, 0x4E, 0, 0, 0, 0]),
      (⟨rxTimeId, 0⟩, [0x00, 0x50, 0, 0, 0])]

/-- The first call, with the response in time: the range is stored and printed. -/
theorem ssInitRun_over_spi_response :
    let port : SpiSystem (DwFront RegisterFile) := idlePort ⟨respondedRegisters, .released⟩
    let call := ssInitRun 3 configuredData (powerOn : Initiator ℚ)
    (∃ result port', Exec (spiCarrier statusChip) call port result port') ∧
      ∀ result port', Exec (spiCarrier statusChip) call port result port' →
        (result.map fun r => (r.1.map fun x => (x.node, x.millimetres), r.2.1.rxCount)) =
          some (some (1, 549), 1) := by
  intro port call
  obtain ⟨hexec, _, _, _, hall⟩ := ssInitRun_over_spi statusChip 3
    (rfl : configuredData.txFCTRL = txFctrl) (powerOn : Initiator ℚ)
    (⟨idlePort_idle _, rfl⟩ : AtRest port respondedRegisters)
  refine ⟨hexec, fun result port' hrun => ?_⟩
  rw [(hall result port' hrun).1]
  decide +kernel

end Breadcrumb.Driver
