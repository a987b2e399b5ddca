import Breadcrumb.Driver.ConfigurationRuns
import Breadcrumb.Uwb.RoundTrip

/-!
From reset to a chip that is ready to range: `dwt_initialise` and the calls
behind it in `breadcrumb_dwm_init`. What the chip makes of the reset is not in
the source; the driver relies on two fields of SYS_CFG.
-/

namespace Breadcrumb.Driver

open Breadcrumb.Machine Breadcrumb.Machine.RegisterFile
open Breadcrumb.Uwb (pmscId txFctrl pmscCtrl0SoftresetOffset pollTxToRespRxDlyUus RxWindow
  receiveWindow)

def txAntDly : Word16 := 16456
def rxAntDly : Word16 := 16456

/-- The calls of `breadcrumb_dwm_init` behind `dwt_initialise`. -/
def initCalls : List ApiCall :=
  [.configure breadcrumbConfig breadcrumbConfig_valid, .setrxantennadelay rxAntDly,
    .settxantennadelay txAntDly, .setrxaftertxdelay pollTxToRespRxDlyUus, .setrxtimeout 65000]

/-- `breadcrumb_dwm_init`: nothing comes back when the device is not recognised, since the source
then loops forever. -/
def breadcrumbDwmInit (l : DwtLocalData) : Bus (Option DwtLocalData) := do
  let (success, l) ← dwtInitialise dwtLoaducode l
  if success then some <$> runCalls l initCalls
  else pure none

/-- What the driver takes SYS_CFG to be behind a reset: single buffered, standard frames. -/
structure ResetSysCfg (mem : RegisterFile) : Prop where
  disDrxb : mem.word32 ⟨sysCfgId, 0⟩ &&& sysCfgDisDrxb ≠ 0
  phrMode : mem.word32 ⟨sysCfgId, 0⟩ &&& sysCfgPhrMode11 = 0

theorem ResetSysCfg.congr {mem mem' : RegisterFile} (h : ResetSysCfg mem)
    (hword : mem'.word32 ⟨sysCfgId, 0⟩ = mem.word32 ⟨sysCfgId, 0⟩) : ResetSysCfg mem' := by
  constructor
  · rw [hword]
    exact h.disDrxb
  · rw [hword]
    exact h.phrMode

def sysCfgRange : List (RegAddr × Nat) := [(⟨sysCfgId, 0⟩, 4)]

theorem sysCfgRange_device : sysCfgRange ⊆ deviceRanges :=
  List.cons_subset.mpr ⟨List.mem_cons_self, List.nil_subset _⟩

/-- What `dwt_initialise` writes. -/
def initRanges : List (RegAddr × Nat) :=
  [(⟨pmscId, 0⟩, 8), (⟨aonId, 0⟩, 12), (⟨otpIfId, 0⟩, 20), (⟨extSyncId, 0⟩, 4),
    (⟨fsCtrlId, fsXtaltOffset⟩, 1)]

theorem initRanges_clear : ∀ f ∈ initRanges, Clear sysCfgRange f.1 f.2 := by
  decide

theorem initWrite {a : RegAddr} {bytes : List Byte} (n : Nat) (hn : bytes.length = n)
    (ha : a ≠ ⟨pmscId, pmscCtrl0SoftresetOffset⟩) (hwithin : Within initRanges a n) :
    QuietWithin initRanges a bytes := quietWithin n hn ha hwithin

theorem dwtEnableclocks_writes (clocks : Clocks) :
    WritesWithin initRanges (dwtEnableclocks clocks) :=
  ⟨trivial, fun _ _ => ⟨initWrite 1 rfl (by decide) (by decide),
    initWrite 1 rfl (by decide) (by decide), trivial⟩⟩

theorem dwtOtpread_writes (address : Word16) : WritesWithin initRanges (dwtOtpread address) :=
  ⟨initWrite 2 rfl (by decide) (by decide), initWrite 1 rfl (by decide) (by decide),
    initWrite 1 rfl (by decide) (by decide), trivial, fun _ _ => trivial⟩

theorem dwtSetxtaltrim_writes (value : Byte) : WritesWithin initRanges (dwtSetxtaltrim value) :=
  ⟨initWrite 1 rfl (by decide) (by decide), trivial⟩

theorem dwtLoaducodefromrom_writes : WritesWithin initRanges dwtLoaducodefromrom := by
  apply BusProgram.touches_bind (dwtEnableclocks_writes _)
  intro _
  refine ⟨initWrite 2 rfl (by decide) (by decide), ?_⟩
  apply BusProgram.touches_bind (BusProgram.touches_pure ())
  intro _
  exact BusProgram.touches_bind (p := decaSleep 1) trivial fun _ => dwtEnableclocks_writes _

theorem dwtKickLdo_writes (ldoTune : Word32) (l : DwtLocalData) :
    WritesWithin initRanges (dwtKickLdo ldoTune l) := by
  unfold dwtKickLdo
  split
  · exact ⟨initWrite 1 rfl (by decide) (by decide), trivial⟩
  · trivial

theorem dwtLoadLde_writes (config : Word16) (l : DwtLocalData) :
    WritesWithin initRanges (dwtLoadLde config l) := by
  unfold dwtLoadLde
  split
  · exact BusProgram.touches_bind dwtLoaducodefromrom_writes fun _ => trivial
  · exact ⟨trivial, fun _ _ => ⟨initWrite 2 rfl (by decide) (by decide), trivial⟩⟩

/-- The fields of the local data that `dwt_initialise` clears, or that start out as zero. -/
def Cleared (l : DwtLocalData) : Prop := l.dblbuffon = 0 ∧ l.longFrames = 0

theorem dwtKickLdo_returns (ldoTune : Word32) {l : DwtLocalData} (hl : Cleared l) :
    (dwtKickLdo ldoTune l).Returns Cleared := by
  unfold dwtKickLdo
  split <;> exact hl

theorem dwtLoadLde_returns (config : Word16) {l : DwtLocalData} (hl : Cleared l) :
    (dwtLoadLde config l).Returns Cleared := by
  unfold dwtLoadLde
  split
  · exact BusProgram.returns_bind (BusProgram.returns_any dwtLoaducodefromrom) fun _ _ => hl
  · exact fun _ _ => hl

section Chip

variable {δ : Type} {dev : Device RegAddr Byte δ} {registers : δ → RegisterFile}

theorem sysCfg_covered {i : Nat} (hi : i < 4) :
    Covers sysCfgRange ((⟨sysCfgId, 0⟩ : RegAddr).offset i) :=
  Covers.of_mem List.mem_cons_self hi

/-- A fact of the precondition that is not about the device. -/
theorem triple_of_fact {α : Type} {p : Bus α} {K : Prop} {P : δ → Prop} {Q : α → δ → Prop}
    (hp : K → p.Triple dev P Q) : p.Triple dev (fun d => K ∧ P d) Q := fun d hd => hp hd.1 d hd.2

/-- What leaves SYS_CFG alone keeps what the reset made of it. -/
theorem initStep {α β : Type} (h : Remembers dev registers (Covers sysCfgRange) Quiet) {p : Bus α}
    {f : α → Bus β} {Q : α → Prop} {R : β → δ → Prop} (hp : WritesWithin initRanges p)
    (hreturns : p.Returns Q)
    (hf : ∀ a, Q a → (f a).Triple dev (fun d => ResetSysCfg (registers d)) R) :
    (p >>= f).Triple dev (fun d => ResetSysCfg (registers d)) R := by
  intro d hd
  have hkept := keeps_of_writesWithin h hp initRanges_clear d
  have hword : (registers (p.run dev d).2).word32 ⟨sysCfgId, 0⟩ =
      (registers d).word32 ⟨sysCfgId, 0⟩ :=
    congrArg (assemble 32) (peek_congr fun i hi => hkept _ (sysCfg_covered hi))
  rw [BusProgram.run_bind]
  exact hf _ (hreturns.run dev d) _ (hd.congr hword)

/-- The same where nothing is known of the result. -/
theorem initStep_any {α β : Type} (h : Remembers dev registers (Covers sysCfgRange) Quiet)
    {p : Bus α} {f : α → Bus β} {R : β → δ → Prop} (hp : WritesWithin initRanges p)
    (hf : ∀ a, (f a).Triple dev (fun d => ResetSysCfg (registers d)) R) :
    (p >>= f).Triple dev (fun d => ResetSysCfg (registers d)) R :=
  initStep h hp (BusProgram.returns_any p) fun a _ => hf a

/-- The copy of SYS_CFG is taken last. -/
theorem readSysCfg_triple (h : Remembers dev registers (Covers sysCfgRange) Quiet)
    {l : DwtLocalData} (hl : Cleared l) :
    (dwtRead32bitreg sysCfgId >>= fun sysCFGreg =>
      (pure { l with sysCFGreg := sysCFGreg } : Bus DwtLocalData)).Triple dev
        (fun d => ResetSysCfg (registers d)) fun l' d => Coherent l' (registers d) := by
  intro d hd
  have hvalue : (dev.read d ⟨sysCfgId, 0⟩ 4).1 = (registers d).peek ⟨sysCfgId, 0⟩ 4 :=
    h.read_value d _ 4 fun i hi => sysCfg_covered hi
  have hword : (registers (dev.read d ⟨sysCfgId, 0⟩ 4).2).word32 ⟨sysCfgId, 0⟩ =
      (registers d).word32 ⟨sysCfgId, 0⟩ :=
    congrArg (assemble 32) (peek_congr fun i hi => h.read_keeps d _ 4 _ (sysCfg_covered hi))
  have hcopy : assemble 32 (dev.read d ⟨sysCfgId, 0⟩ 4).1 = (registers d).word32 ⟨sysCfgId, 0⟩ :=
    congrArg (assemble 32) hvalue
  refine ⟨hword.trans hcopy.symm, iff_of_false (not_not_intro hl.1) ?_, ?_⟩
  · exact fun hzero => hd.disDrxb (hcopy ▸ hzero)
  · refine (congrArg (· &&& sysCfgPhrMode11) hcopy).trans ?_
    change _ = (l.longFrames.setWidth 32 <<< 16) &&& sysCfgPhrMode11
    rw [hd.phrMode, hl.2]
    rfl

/-- The reset is followed by writes elsewhere only. -/
theorem dwtSoftreset_triple (h : Remembers dev registers (Covers sysCfgRange) Quiet)
    (hreset : ∀ d, ResetSysCfg (registers
      (dev.write d ⟨pmscId, pmscCtrl0SoftresetOffset⟩ [pmscCtrl0ResetAll])))
    {l : DwtLocalData} (hl : Cleared l) :
    (dwtSoftreset l).Triple dev (fun _ => True) fun l' d =>
      Cleared l' ∧ ResetSysCfg (registers d) := by
  have hbehind : (do
      decaSleep 1
      dwtWrite8bitoffsetreg pmscId pmscCtrl0SoftresetOffset pmscCtrl0ResetClear
      pure { l with wait4resp := 0 } : Bus DwtLocalData).Triple dev
        (fun d => ResetSysCfg (registers d)) fun l' d =>
          Cleared l' ∧ ResetSysCfg (registers d) := by
    have hclear : QuietWithin initRanges ⟨pmscId, pmscCtrl0SoftresetOffset⟩ [pmscCtrl0ResetClear] :=
      ⟨by decide, by decide⟩
    refine initStep_any h (p := decaSleep 1) trivial fun _ => ?_
    refine initStep_any h (p := dwtWrite8bitoffsetreg _ _ _) ⟨hclear, trivial⟩ fun _ => ?_
    exact BusProgram.triple_pure _ fun d hd => ⟨hl, hd⟩
  have hwrite : (dwtWrite8bitoffsetreg pmscId pmscCtrl0SoftresetOffset pmscCtrl0ResetAll).Triple dev
      (fun _ => True) fun _ d => ResetSysCfg (registers d) := fun d _ => hreset d
  have hany {α : Type} (p : Bus α) : p.Triple dev (fun _ => True) fun _ _ => True :=
    fun _ _ => trivial
  unfold dwtSoftreset
  refine BusProgram.triple_bind (hany dwtDisablesequencing) fun _ => ?_
  refine BusProgram.triple_bind (hany _) fun _ => ?_
  refine BusProgram.triple_bind (hany _) fun _ => ?_
  refine BusProgram.triple_bind (hany dwtAonarrayupload) fun _ => ?_
  exact BusProgram.triple_bind hwrite fun _ => hbehind

/-- Behind the check of the device ID. -/
theorem dwtInitialiseDevice_triple (h : Remembers dev registers (Covers sysCfgRange) Quiet)
    (hreset : ∀ d, ResetSysCfg (registers
      (dev.write d ⟨pmscId, pmscCtrl0SoftresetOffset⟩ [pmscCtrl0ResetAll])))
    (config : Word16) {l : DwtLocalData} (hl : Cleared l) :
    (dwtInitialiseDevice config l).Triple dev (fun _ => True) fun l' d =>
      Coherent l' (registers d) := by
  unfold dwtInitialiseDevice
  refine BusProgram.triple_bind (dwtSoftreset_triple h hreset hl) fun l₁ => ?_
  refine triple_of_fact fun hl₁ => ?_
  refine initStep_any h (dwtEnableclocks_writes _) fun _ => ?_
  refine initStep_any h (p := dwtWrite8bitoffsetreg _ _ _)
    ⟨initWrite 1 rfl (by decide) (by decide), trivial⟩ fun _ => ?_
  refine initStep_any h (dwtOtpread_writes _) fun otp => ?_
  refine initStep_any h (dwtOtpread_writes _) fun ldoTune => ?_
  refine initStep h (dwtKickLdo_writes _ _) (dwtKickLdo_returns _ hl₁) fun l₂ hl₂ => ?_
  refine initStep_any h (dwtOtpread_writes _) fun partID => ?_
  refine initStep_any h (dwtOtpread_writes _) fun lotID => ?_
  refine initStep_any h (dwtSetxtaltrim_writes _) fun _ => ?_
  refine initStep h (dwtLoadLde_writes _ _) (dwtLoadLde_returns _ hl₂) fun l₃ hl₃ => ?_
  refine initStep_any h (dwtEnableclocks_writes _) fun _ => ?_
  refine initStep_any h (p := dwtWrite8bitoffsetreg _ _ _)
    ⟨initWrite 1 rfl (by decide) (by decide), trivial⟩ fun _ => ?_
  exact readSysCfg_triple h hl₃

/-- What DEV_ID reads as. -/
def deviceId (dev : Device RegAddr Byte δ) (d : δ) : Word32 :=
  assemble 32 (dev.read d ⟨devIdId, 0⟩ 4).1

/-- What `initCalls` set. -/
def ready : Expected := initCalls.foldl Expected.call ⟨none, fun _ => none⟩

/-- The chip as the ranging calls need it. -/
structure Ready (l : DwtLocalData) (mem : RegisterFile) : Prop where
  coherent : Coherent l mem
  configured : Configured breadcrumbConfig l mem
  txFCTRL : l.txFCTRL = txFctrl
  rxAntd : mem.word16 ⟨ldeIfId, ldeRxantdOffset⟩ = rxAntDly
  txAntd : mem.word16 ⟨txAntdId, 0⟩ = txAntDly
  window : receiveWindow ⟨mem.word32 ⟨ackRespTId, 0⟩, mem.word16 ⟨rxFwtoId, 0⟩,
    decide (mem.word32 ⟨sysCfgId, 0⟩ &&& sysCfgRxwtoe ≠ 0)⟩ = some (65100 * 65536)

theorem word16_of_setWidth {v w : Word16} (h : v.setWidth 32 = w.setWidth 32) : v = w := by
  have hback := congrArg (BitVec.setWidth 16) h
  rwa [BitVec.setWidth_setWidth_of_le _ (by decide), BitVec.setWidth_setWidth_of_le _ (by decide),
    BitVec.setWidth_eq, BitVec.setWidth_eq] at hback

theorem Meets.ready {l : DwtLocalData} {mem : RegisterFile} (h : Meets ready l mem) :
    Ready l mem := by
  have hconfigured := h.configured breadcrumbConfig rfl
  have hrxAntd := h.settings .rxAntd _ rfl
  have htxAntd := h.settings .txAntd _ rfl
  have hdelay := h.settings .w4rTim _ rfl
  have hfwto := h.settings .rxFwto _ rfl
  have hwtoe := h.settings (.sysCfg .rxwtoe) _ rfl
  refine ⟨h.coherent, hconfigured, hconfigured.txFCTRL.trans rfl, word16_of_setWidth hrxAntd,
    word16_of_setWidth htxAntd, ?_⟩
  have hon : mem.word32 ⟨sysCfgId, 0⟩ &&& sysCfgRxwtoe ≠ 0 := by
    rw [show mem.word32 ⟨sysCfgId, 0⟩ &&& sysCfgRxwtoe = sysCfgRxwtoe from hwtoe]
    decide
  have htime : mem.word16 ⟨rxFwtoId, 0⟩ = 65000 := word16_of_setWidth hfwto
  have hwait : mem.word32 ⟨ackRespTId, 0⟩ &&& Uwb.ackRespTW4rTimMask = 100 := hdelay
  simp only [receiveWindow, hon, htime, hwait, ne_eq, not_false_eq_true, decide_true, if_true]
  rfl

/-- Nothing is set yet. -/
theorem meets_of_coherent {l : DwtLocalData} {mem : RegisterFile} (h : Coherent l mem) :
    Meets ⟨none, fun _ => none⟩ l mem where
  coherent := h
  configured _ hconfig := nomatch hconfig
  settings _ _ hvalue := nomatch hvalue

theorem dwtInitialise_run (dev : Device RegAddr Byte δ) (l : DwtLocalData) (d : δ) :
    (dwtInitialise dwtLoaducode l).run dev d =
      let l₀ := { l with dblbuffon := 0, wait4resp := 0, sleepMode := 0 }
      let d₀ := (dev.read d ⟨devIdId, 0⟩ 4).2
      if dwtDeviceId ≠ deviceId dev d then ((false, l₀), d₀)
      else
        ((true, ((dwtInitialiseDevice dwtLoaducode l₀).run dev d₀).1),
          ((dwtInitialiseDevice dwtLoaducode l₀).run dev d₀).2) := by
  dsimp only
  unfold dwtInitialise
  rw [BusProgram.run_bind]
  split
  next hid => exact (if_pos hid).symm
  next hid => exact (BusProgram.run_bind dev _ _ _).trans (if_neg hid).symm

/-- On a device that is recognised `breadcrumb_dwm_init` ends with the driver and the registers in
agreement, and set up as the program asks; on any other nothing is written at all. -/
theorem breadcrumbDwmInit_ready (h : Remembers dev registers (Covers deviceRanges) Quiet)
    (hreset : ∀ d, ResetSysCfg (registers
      (dev.write d ⟨pmscId, pmscCtrl0SoftresetOffset⟩ [pmscCtrl0ResetAll])))
    {l : DwtLocalData} (hl : l.longFrames = 0) (d : δ) :
    if dwtDeviceId = deviceId dev d then
      ∃ l', ((breadcrumbDwmInit l).run dev d).1 = some l' ∧
        Ready l' (registers ((breadcrumbDwmInit l).run dev d).2)
    else ((breadcrumbDwmInit l).run dev d).1 = none ∧ (breadcrumbDwmInit l).writes dev d = [] := by
  have hsysCfg : Remembers dev registers (Covers sysCfgRange) Quiet :=
    h.mono fun _ hb => hb.mono sysCfgRange_device
  have hinit := dwtInitialise_run dev l d
  dsimp only at hinit
  split
  next hid =>
    rw [if_neg (not_not_intro hid)] at hinit
    have hco := dwtInitialiseDevice_triple hsysCfg hreset dwtLoaducode
      (l := { l with dblbuffon := 0, wait4resp := 0, sleepMode := 0 }) ⟨rfl, hl⟩
      (dev.read d ⟨devIdId, 0⟩ 4).2 trivial
    have hmeets := runCalls_meets h initCalls (meets_of_coherent hco)
    unfold breadcrumbDwmInit
    rw [BusProgram.run_bind, hinit]
    simp only [if_true, BusProgram.run_map]
    exact ⟨_, rfl, hmeets.ready⟩
  next hid =>
    rw [if_pos hid] at hinit
    have hwrites : (dwtInitialise dwtLoaducode l).writes dev d = [] := by
      unfold dwtInitialise
      rw [BusProgram.writes_bind]
      exact congrArg (fun p : Bus _ => p.writes dev _) (if_pos hid)
    unfold breadcrumbDwmInit
    rw [BusProgram.run_bind, BusProgram.writes_bind, hinit, hwrites]
    exact ⟨rfl, rfl⟩

end Chip

/-- Memory, but for the reset: it puts SYS_CFG to HIRQ_POL and DIS_DRXB. -/
def pokeOrReset (mem : RegisterFile) (a : RegAddr) (bytes : List Byte) : RegisterFile :=
  if Quiet a bytes then mem.poke a bytes
  else mem.poke ⟨sysCfgId, 0⟩ (leBytes 4 (0x1200 : Word32))

def resettable : Device RegAddr Byte RegisterFile := { memory with write := pokeOrReset }

theorem resettable_remembers (region : RegAddr → Prop) :
    Remembers resettable (fun mem => mem) region Quiet where
  read_value _ _ _ _ := rfl
  read_keeps _ _ _ _ _ := rfl
  write _ _ _ b hquiet _ := congrFun (if_pos hquiet) b
  sleep _ _ _ _ := rfl

theorem resettable_reset (mem : RegisterFile) : ResetSysCfg
    (resettable.write mem ⟨pmscId, pmscCtrl0SoftresetOffset⟩ [pmscCtrl0ResetAll]) := by
  have hloud : ¬ Quiet ⟨pmscId, pmscCtrl0SoftresetOffset⟩ [pmscCtrl0ResetAll] :=
    not_not_intro ⟨rfl, rfl⟩
  have hreset : resettable.write mem ⟨pmscId, pmscCtrl0SoftresetOffset⟩ [pmscCtrl0ResetAll] =
      pokeOrReset mem ⟨pmscId, pmscCtrl0SoftresetOffset⟩ [pmscCtrl0ResetAll] := rfl
  rw [hreset, pokeOrReset, if_neg hloud]
  constructor
  · rw [word32_poke]
    decide
  · rw [word32_poke]
    decide

/-- Powered on: only DEV_ID reads as anything. -/
def poweredOn : RegisterFile := poke (fun _ => 0) ⟨devIdId, 0⟩ (leBytes 4 dwtDeviceId)

def poweredOnData : DwtLocalData :=
  { singleBufferedData with sysCFGreg := 0 }

theorem breadcrumbDwmInit_ready_poweredOn :
    ∃ l', ((breadcrumbDwmInit poweredOnData).run resettable poweredOn).1 = some l' ∧
      Ready l' ((breadcrumbDwmInit poweredOnData).run resettable poweredOn).2 := by
  have hid : dwtDeviceId = deviceId resettable poweredOn := (word32_poke _ _ _).symm
  have hready := breadcrumbDwmInit_ready (resettable_remembers (Covers deviceRanges))
    resettable_reset (l := poweredOnData) rfl poweredOn
  rwa [if_pos hid] at hready

end Breadcrumb.Driver
