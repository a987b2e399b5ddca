import Breadcrumb.Driver.Configuration
import Breadcrumb.Driver.SystemSettings

/-!
Runs of driver calls over the settings. Each call is followed on registers that
are memory, or seen to stay beside the settings; from there every run of calls
on every chip that remembers its settings is the run of what they set.
-/

namespace Breadcrumb.Driver

open Breadcrumb.Machine Breadcrumb.Machine.RegisterFile
open Breadcrumb.Uwb (pmscId sysCtrlId sysStatusId txBufferId txFctrlId pmscCtrl0SoftresetOffset
  ackRespTW4rTimMask)

variable {mem mem' : RegisterFile} {l l' : DwtLocalData}

/-! The calls on plain memory. -/

/-- A call run on registers that are memory. -/
def RunsAs (c : ApiCall) : Prop :=
  ∀ l mem, Performs c.sets l mem ((c.program l).run memory mem).1 ((c.program l).run memory mem).2

theorem Performs.of_sets {sets sets' : Setting → Option Word32} (h : Performs sets l mem l' mem')
    (hsets : ∀ f, sets f = sets' f) : Performs sets' l mem l' mem' := funext hsets ▸ h

theorem setrxantennadelay_runs (rxDelay : Word16) : RunsAs (.setrxantennadelay rxDelay) :=
  fun _ _ => (performs_halfword .rxAntd rxDelay rfl fun _ => rfl).of_sets
    fun f => by cases f <;> rfl

theorem settxantennadelay_runs (txDelay : Word16) : RunsAs (.settxantennadelay txDelay) :=
  fun _ _ => (performs_halfword .txAntd txDelay rfl fun _ => rfl).of_sets
    fun f => by cases f <;> rfl

theorem setpreambledetecttimeout_runs (timeout : Word16) :
    RunsAs (.setpreambledetecttimeout timeout) :=
  fun _ _ => (performs_halfword .drxPretoc timeout rfl fun _ => rfl).of_sets
    fun f => by cases f <;> rfl

theorem setdblrxbuffmode_runs (enable : Bool) : RunsAs (.setdblrxbuffmode enable) := by
  intro l mem
  cases enable with
  | false =>
      have hreg := setField_ones l.sysCFGreg SysCfgField.disDrxb.mask
      have hset : (l.sysCFGreg ||| sysCfgDisDrxb) &&& sysCfgDisDrxb = sysCfgDisDrxb :=
        (congrArg (· &&& sysCfgDisDrxb) hreg.symm).trans setField_and_self
      refine performs_sysCfg (l.sysCFGreg ||| sysCfgDisDrxb) (fun _ => word32_poke _ _ _)
        (fun _ h => poke_of_file h) rfl ?_ (fun _ field => ?_) (fun _ => ?_) fun hco => ?_
      · exact fun f => by cases f <;> first | exact .inl rfl | exact .inr ⟨_, rfl⟩
      · exact hreg ▸ (setField_mask _ _ _ _).trans (by cases field <;> rfl)
      · exact iff_of_false (not_not_intro rfl) (by rw [hset]; decide)
      · exact hco.phrMode_kept (hreg ▸ SysCfgField.disDrxb.setField_other _ (by decide))
  | true =>
      have hreg := setField_zero l.sysCFGreg SysCfgField.disDrxb.mask
      have hclear : (l.sysCFGreg &&& ~~~sysCfgDisDrxb) &&& sysCfgDisDrxb = 0 :=
        clearOnes_and_self _ _
      refine performs_sysCfg (l.sysCFGreg &&& ~~~sysCfgDisDrxb) (fun _ => word32_poke _ _ _)
        (fun _ h => poke_of_file h) rfl ?_ (fun _ field => ?_) (fun _ => ?_) fun hco => ?_
      · exact fun f => by cases f <;> first | exact .inl rfl | exact .inr ⟨_, rfl⟩
      · exact hreg ▸ (setField_mask _ _ _ _).trans (by cases field <;> rfl)
      · exact iff_of_true (by change (1 : Byte) ≠ 0; decide) hclear
      · exact hco.phrMode_kept (hreg ▸ SysCfgField.disDrxb.setField_other _ (by decide))

theorem setsmarttxpower_runs (enable : Bool) : RunsAs (.setsmarttxpower enable) := by
  intro l mem hco
  have hstep : ((ApiCall.setsmarttxpower enable).program l).run memory mem =
      ({ l with sysCFGreg := if enable then mem.word32 ⟨sysCfgId, 0⟩ &&& ~~~sysCfgDisStxp
          else mem.word32 ⟨sysCfgId, 0⟩ ||| sysCfgDisStxp },
        mem.poke ⟨sysCfgId, 0⟩ (leBytes 4
          (if enable then mem.word32 ⟨sysCfgId, 0⟩ &&& ~~~sysCfgDisStxp
            else mem.word32 ⟨sysCfgId, 0⟩ ||| sysCfgDisStxp))) := rfl
  have hreg : (if enable then mem.word32 ⟨sysCfgId, 0⟩ &&& ~~~sysCfgDisStxp
      else mem.word32 ⟨sysCfgId, 0⟩ ||| sysCfgDisStxp) =
        setField l.sysCFGreg SysCfgField.disStxp.mask (if enable then 0 else sysCfgDisStxp) := by
    rw [hco.sysCFGreg]
    cases enable with
    | false => exact (setField_ones _ SysCfgField.disStxp.mask).symm
    | true => exact (setField_zero _ SysCfgField.disStxp.mask).symm
  rw [hstep]
  refine ((performs_field .disStxp (if enable then 0 else sysCfgDisStxp) _ (by decide) (by decide)
    (fun _ => word32_poke _ _ _) (fun _ h => poke_of_file h) fun _ => hreg).of_sets fun f => ?_) hco
  cases f with
  | sysCfg field => cases enable <;> cases field <;> rfl
  | _ => rfl

/-- The delay of an acknowledgement is the upper byte of its register. -/
theorem performs_ackTim (v : Byte) :
    Performs (setsOnly .ackTim (v.setWidth 32)) l mem l
      (mem.poke ⟨ackRespTId, ackRespTAckTimOffset⟩ [v]) := by
  intro hco
  refine ⟨⟨?_, hco.dblbuffon, hco.longFrames⟩, fun f => ?_⟩
  · exact (word32_poke_apart (.inl (by decide))).trans hco.sysCFGreg
  · cases f with
    | ackTim => exact congrArg (BitVec.setWidth 32) (by simp [poke])
    | w4rTim =>
        have hword := word32_poke_top mem ⟨ackRespTId, 0⟩ v
        have hlow : mem.word32 ⟨ackRespTId, 0⟩ &&& lowerBytes &&& ackRespTW4rTimMask =
            mem.word32 ⟨ackRespTId, 0⟩ &&& ackRespTW4rTimMask := by
          rw [BitVec.and_assoc]
          rfl
        change (mem.poke ((⟨ackRespTId, 0⟩ : RegAddr).offset 3) [v]).word32 _ &&& _ = _
        rw [hword, BitVec.or_comm, or_and_of_clear (shiftLeft_and_eq_zero (by decide) _), hlow]
        rfl
    | _ => exact Setting.value_poke_file (Nat.ne_of_beq_eq_false rfl)

theorem enableautoack_runs (responseDelayTime : Byte) :
    RunsAs (.enableautoack responseDelayTime) := by
  intro l mem
  have hreg := setField_ones l.sysCFGreg SysCfgField.autoack.mask
  refine ((performs_ackTim responseDelayTime).trans (performs_field .autoack sysCfgAutoack
    (l.sysCFGreg ||| sysCfgAutoack) (by decide) (by decide) (fun _ => word32_poke _ _ _)
    (fun _ h => poke_of_file h) fun _ => hreg.symm)).of_sets fun f => ?_
  cases f with
  | sysCfg field => cases field <;> rfl
  | _ => rfl

theorem setrxaftertxdelay_runs (rxDelayTime : Word32) :
    RunsAs (.setrxaftertxdelay rxDelayTime) := by
  intro l mem hco
  have hreg : (mem.word32 ⟨ackRespTId, 0⟩ &&& ~~~ackRespTW4rTimMask) |||
      (rxDelayTime &&& ackRespTW4rTimMask) =
        setField (mem.word32 ⟨ackRespTId, 0⟩) ackRespTW4rTimMask rxDelayTime := rfl
  have hstep : ((ApiCall.setrxaftertxdelay rxDelayTime).program l).run memory mem =
      (l, mem.poke ⟨ackRespTId, 0⟩ (leBytes 4
        (setField (mem.word32 ⟨ackRespTId, 0⟩) ackRespTW4rTimMask rxDelayTime))) := rfl
  rw [hstep]
  refine ⟨⟨?_, hco.dblbuffon, hco.longFrames⟩, fun f => ?_⟩
  · exact (word32_poke_apart (.inl (by decide))).trans hco.sysCFGreg
  · cases f with
    | w4rTim => exact (congrArg (· &&& _) (word32_poke _ _ _)).trans setField_and_self
    | ackTim =>
        have hbyte := word32_top mem ⟨ackRespTId, 0⟩
        have hbyte' := word32_top (mem.poke ⟨ackRespTId, 0⟩ (leBytes 4
          (setField (mem.word32 ⟨ackRespTId, 0⟩) ackRespTW4rTimMask rxDelayTime))) ⟨ackRespTId, 0⟩
        rw [word32_poke, setField_ushiftRight (by decide)] at hbyte'
        exact congrArg (BitVec.setWidth 32) (hbyte'.trans hbyte.symm)
    | _ => exact Setting.value_poke_file (Nat.ne_of_beq_eq_false rfl)

/-- The upper byte of SYS_CFG, written by itself. -/
theorem word32_poke_upper (mem : RegisterFile) {reg : Word32} {byte : Byte}
    (h : (mem.word32 ⟨sysCfgId, 0⟩ &&& lowerBytes) ||| (byte.setWidth 32 <<< 24) = reg) :
    (mem.poke ⟨sysCfgId, 3⟩ [byte]).word32 ⟨sysCfgId, 0⟩ = reg :=
  (word32_poke_top mem ⟨sysCfgId, 0⟩ byte).trans h

theorem setrxtimeout_runs (time : Word16) : RunsAs (.setrxtimeout time) := by
  intro l mem
  have htop : mem ⟨sysCfgId, 3⟩ = (mem.word32 ⟨sysCfgId, 0⟩ >>> 24).setWidth 8 :=
    word32_top mem ⟨sysCfgId, 0⟩
  by_cases htime : time > 0
  · have hstep : ((ApiCall.setrxtimeout time).program l).run memory mem =
        ({ l with sysCFGreg := l.sysCFGreg ||| sysCfgRxwtoe },
          (mem.poke ⟨rxFwtoId, 0⟩ (leBytes 2 time)).poke ⟨sysCfgId, 3⟩
            [mem ⟨sysCfgId, 3⟩ ||| (sysCfgRxwtoe >>> 24).setWidth 8]) := by
      simp only [ApiCall.program, dwtSetrxtimeout, if_pos htime]
      rfl
    have hreg := setField_ones l.sysCFGreg SysCfgField.rxwtoe.mask
    rw [hstep]
    refine ((performs_halfword .rxFwto time rfl fun _ => rfl).trans (performs_field .rxwtoe
      sysCfgRxwtoe _ (by decide) (by decide) (fun hco => word32_poke_upper _ ?_)
      (fun _ h => poke_of_file h) fun _ => hreg.symm)).of_sets fun f => ?_
    · rw [← hco.sysCFGreg, word32_poke_apart (.inl (by decide)), htop]
      exact top_byte_or (by decide) _
    · cases f with
      | sysCfg field =>
          cases field with
          | rxwtoe => exact congrArg some (if_pos htime).symm
          | _ => rfl
      | rxFwto => exact (if_pos htime).symm
      | _ => rfl
  · have hstep : ((ApiCall.setrxtimeout time).program l).run memory mem =
        ({ l with sysCFGreg := l.sysCFGreg &&& ~~~sysCfgRxwtoe },
          mem.poke ⟨sysCfgId, 3⟩ [mem ⟨sysCfgId, 3⟩ &&& ~~~(sysCfgRxwtoe >>> 24).setWidth 8]) := by
      simp only [ApiCall.program, dwtSetrxtimeout, if_neg htime]
      rfl
    have hreg := setField_zero l.sysCFGreg SysCfgField.rxwtoe.mask
    rw [hstep]
    refine (performs_field .rxwtoe 0 _ (by decide) (by decide) (fun hco => word32_poke_upper _ ?_)
      (fun _ h => poke_of_file h) fun _ => hreg.symm).of_sets fun f => ?_
    · rw [← hco.sysCFGreg, htop]
      exact top_byte_and_not (by decide) _
    · cases f with
      | sysCfg field =>
          cases field with
          | rxwtoe => exact congrArg some (if_neg htime).symm
          | _ => rfl
      | rxFwto => exact (if_neg htime).symm
      | _ => rfl

/-- What the frame filter makes of SYS_CFG, whose reserved bits it clears. -/
theorem frameFilter_fields (reg enable : Word32) (field : SysCfgField) :
    (((sysCfgMask &&& reg) &&& ~~~sysCfgFfAllEn) ||| ((enable &&& sysCfgFfAllEn) ||| sysCfgFfe)) &&&
        field.mask =
      if field = .ffe then sysCfgFfe
      else if field = .ffAllEn then enable &&& sysCfgFfAllEn else reg &&& field.mask := by
  have hreg : ((sysCfgMask &&& reg) &&& ~~~sysCfgFfAllEn) |||
      ((enable &&& sysCfgFfAllEn) ||| sysCfgFfe) =
        setField (setField (sysCfgMask &&& reg) SysCfgField.ffAllEn.mask enable)
          SysCfgField.ffe.mask sysCfgFfe := by
    rw [← BitVec.or_assoc]
    exact (setField_ones _ SysCfgField.ffe.mask).symm
  rw [hreg, setField_mask, setField_mask, and_and_within field.mask_within]
  cases field <;> rfl

theorem enableframefilter_runs (enable : Word16) : RunsAs (.enableframefilter enable) := by
  intro l mem hco
  have hread : mem.word32 ⟨sysCfgId, 0⟩ = l.sysCFGreg := hco.sysCFGreg
  by_cases henable : enable = 0
  · have hstep : ((ApiCall.enableframefilter enable).program l).run memory mem =
        ({ l with sysCFGreg := (sysCfgMask &&& mem.word32 ⟨sysCfgId, 0⟩) &&& ~~~sysCfgFfe },
          mem.poke ⟨sysCfgId, 0⟩ (leBytes 4
            ((sysCfgMask &&& mem.word32 ⟨sysCfgId, 0⟩) &&& ~~~sysCfgFfe))) := by
      simp only [ApiCall.program, dwtEnableframefilter, henable, ne_eq, not_true_eq_false, if_false]
      rfl
    have hfield (g : SysCfgField) : ((sysCfgMask &&& l.sysCFGreg) &&& ~~~sysCfgFfe) &&& g.mask =
        if g = .ffe then 0 else l.sysCFGreg &&& g.mask := by
      have hreg := setField_zero (sysCfgMask &&& l.sysCFGreg) SysCfgField.ffe.mask
      refine (congrArg (· &&& g.mask) hreg.symm).trans ?_
      rw [setField_mask, and_and_within g.mask_within]
      cases g <;> rfl
    rw [hstep, hread]
    refine performs_sysCfg (l := l) _ (fun _ => word32_poke _ _ _) (fun _ h => poke_of_file h) rfl
      ?_ (fun _ field => ?_) (fun _ => hco.disDrxb_kept (hfield .disDrxb))
      (fun _ => hco.phrMode_kept (hfield .phrMode11)) hco
    · exact fun f => by cases f <;> first | exact .inr ⟨_, rfl⟩ | exact .inl rfl
    · rw [hfield]
      cases field with
      | ffe => exact (if_neg (not_not_intro henable)).symm
      | ffAllEn =>
          have hnone : (ApiCall.enableframefilter enable).sets (.sysCfg .ffAllEn) = none :=
            if_neg (not_not_intro henable)
          rw [hnone]
          rfl
      | _ => rfl
  · have hstep : ((ApiCall.enableframefilter enable).program l).run memory mem =
        ({ l with sysCFGreg := ((sysCfgMask &&& mem.word32 ⟨sysCfgId, 0⟩) &&& ~~~sysCfgFfAllEn) |||
            ((enable.setWidth 32 &&& sysCfgFfAllEn) ||| sysCfgFfe) },
          mem.poke ⟨sysCfgId, 0⟩ (leBytes 4
            (((sysCfgMask &&& mem.word32 ⟨sysCfgId, 0⟩) &&& ~~~sysCfgFfAllEn) |||
              ((enable.setWidth 32 &&& sysCfgFfAllEn) ||| sysCfgFfe)))) := by
      simp only [ApiCall.program, dwtEnableframefilter, henable, ne_eq, not_false_eq_true, if_true]
      rfl
    have hfield := frameFilter_fields l.sysCFGreg (enable.setWidth 32)
    rw [hstep, hread]
    refine performs_sysCfg (l := l) _ (fun _ => word32_poke _ _ _) (fun _ h => poke_of_file h) rfl
      ?_ (fun _ field => ?_) (fun _ => hco.disDrxb_kept (hfield .disDrxb))
      (fun _ => hco.phrMode_kept (hfield .phrMode11)) hco
    · exact fun f => by cases f <;> first | exact .inr ⟨_, rfl⟩ | exact .inl rfl
    · rw [hfield]
      cases field with
      | ffe => exact (if_pos henable).symm
      | ffAllEn =>
          have hsome : (ApiCall.enableframefilter enable).sets (.sysCfg .ffAllEn) =
              some (enable.setWidth 32 &&& sysCfgFfAllEn) := if_pos henable
          rw [hsome]
          rfl
      | _ => rfl

/-! What the calls write. -/

/-- A write within some ranges that does not reset the chip. -/
def QuietWithin (footprint : List (RegAddr × Nat)) (a : RegAddr) (bytes : List Byte) : Prop :=
  Quiet a bytes ∧ Within footprint a bytes.length

abbrev WritesWithin {α : Type} (footprint : List (RegAddr × Nat)) (p : Bus α) : Prop :=
  p.Touches (fun _ _ => True) (QuietWithin footprint)

theorem quietWithin {footprint : List (RegAddr × Nat)} {a : RegAddr} {bytes : List Byte} (n : Nat)
    (hn : bytes.length = n) (ha : a ≠ ⟨pmscId, pmscCtrl0SoftresetOffset⟩)
    (hwithin : Within footprint a n) : QuietWithin footprint a bytes :=
  ⟨fun h => ha h.1, hn ▸ hwithin⟩

/-- What a program does not write on a device, it leaves as it is. -/
theorem keeps_of_writesWithin {α δ : Type} {dev : Device RegAddr Byte δ}
    {registers : δ → RegisterFile} {ranges footprint : List (RegAddr × Nat)} {p : Bus α}
    (h : Remembers dev registers (Covers ranges) Quiet) (hp : WritesWithin footprint p)
    (hclear : ∀ f ∈ footprint, Clear ranges f.1 f.2) (d : δ) (b : RegAddr)
    (hb : Covers ranges b) : registers (p.run dev d).2 b = registers d b := by
  refine h.keeps (hp.mono (fun _ _ h => h) fun a bytes hw => ?_) (registers d) d (fun _ _ => rfl)
    b hb
  exact ⟨hw.1, fun _ hb => (Clear.of_within hclear hw.2).apart hb⟩

/-- Where the radio is set up. -/
def radioRanges : List (RegAddr × Nat) :=
  tuningRanges ++ [(⟨txFctrlId, 0⟩, 4), (⟨sysCtrlId, 0⟩, 1)]

theorem dwtConfigureTune1b_writes (config : DwtConfig) {reads : RegAddr → Nat → Prop} :
    (dwtConfigureTune1b config).Touches reads (QuietWithin radioRanges) := by
  unfold dwtConfigureTune1b
  split
  · exact ⟨quietWithin 2 rfl (by decide) (by decide), trivial⟩
  · split
    · exact ⟨quietWithin 2 rfl (by decide) (by decide), quietWithin 1 rfl (by decide) (by decide),
        trivial⟩
    · exact ⟨quietWithin 2 rfl (by decide) (by decide), quietWithin 1 rfl (by decide) (by decide),
        trivial⟩

theorem dwtConfigureRf_writes (config : DwtConfig) {reads : RegAddr → Nat → Prop} :
    (dwtConfigureRf config).Touches reads (QuietWithin radioRanges) := by
  have hrepc {v : Word16} : QuietWithin radioRanges ⟨ldeIfId, ldeRepcOffset⟩ (leBytes 2 v) :=
    quietWithin 2 rfl (by decide) (by decide)
  refine ⟨hrepc, quietWithin 1 rfl (by decide) (by decide),
    quietWithin 2 rfl (by decide) (by decide), quietWithin 4 rfl (by decide) (by decide),
    quietWithin 1 rfl (by decide) (by decide), quietWithin 1 rfl (by decide) (by decide),
    quietWithin 4 rfl (by decide) (by decide), quietWithin 2 rfl (by decide) (by decide),
    quietWithin 2 rfl (by decide) (by decide), ?_⟩
  apply BusProgram.touches_bind (BusProgram.touches_pure ())
  intro _
  apply BusProgram.touches_bind (dwtConfigureTune1b_writes config)
  intro _
  refine ⟨quietWithin 4 rfl (by decide) (by decide), quietWithin 2 rfl (by decide) (by decide),
    quietWithin 4 rfl (by decide) (by decide), quietWithin 2 rfl (by decide) (by decide), ?_⟩
  apply BusProgram.touches_bind (BusProgram.touches_pure ())
  intro _
  have hchanCtrl {v : Word32} : QuietWithin radioRanges ⟨chanCtrlId, 0⟩ (leBytes 4 v) :=
    quietWithin 4 rfl (by decide) (by decide)
  dsimp only
  split
  · exact ⟨quietWithin 1 rfl (by decide) (by decide), hchanCtrl, trivial⟩
  · exact ⟨hchanCtrl, trivial⟩

/-- Clearing a field and then writing it from shifted bits. -/
theorem configuredSysCfg_eq (config : DwtConfig) (reg : Word32) :
    configuredSysCfg config reg =
      setField (setField reg SysCfgField.rxm110k.mask
        (if config.dataRate = dwtBr110k then sysCfgRxm110k else 0))
        SysCfgField.phrMode11.mask (config.phrMode.setWidth 32 <<< 16) := by
  have hrate : (if config.dataRate = dwtBr110k then reg ||| sysCfgRxm110k
      else reg &&& ~~~sysCfgRxm110k) = setField reg SysCfgField.rxm110k.mask
        (if config.dataRate = dwtBr110k then sysCfgRxm110k else 0) := by
    split
    · exact (setField_ones reg SysCfgField.rxm110k.mask).symm
    · exact (setField_zero reg SysCfgField.rxm110k.mask).symm
  unfold configuredSysCfg
  dsimp only
  rw [hrate, BitVec.and_comm sysCfgPhrMode11]
  rfl

theorem configuredSysCfg_fields {config : DwtConfig} (valid : config.Valid) (reg : Word32)
    (g : SysCfgField) :
    configuredSysCfg config reg &&& g.mask =
      ((ApiCall.configure config valid).sets (.sysCfg g)).getD (reg &&& g.mask) := by
  rw [configuredSysCfg_eq, setField_mask, setField_mask]
  cases g with
  | rxm110k =>
      change (if config.dataRate = dwtBr110k then sysCfgRxm110k else 0) &&& sysCfgRxm110k =
        if config.dataRate = dwtBr110k then sysCfgRxm110k else 0
      split <;> rfl
  | _ => rfl

/-- What a call leaves alone on a device, it leaves alone in the settings. -/
theorem Performs.of_region {sets : Setting → Option Word32} {mem₁ : RegisterFile}
    (h : Performs sets l mem l' mem₁) (hsame : ∀ b, Covers settingRanges b → mem' b = mem₁ b) :
    Performs sets l mem l' mem' := by
  intro hco
  obtain ⟨hco', hvalue⟩ := h hco
  exact ⟨hco'.congr fun b hb => (hsame b hb).symm,
    fun f => (Setting.value_congr hsame f).trans (hvalue f)⟩

theorem dwtConfigureRadio_writes (config : DwtConfig) (l : DwtLocalData)
    {reads : RegAddr → Nat → Prop} :
    (dwtConfigureRadio config l).Touches reads (QuietWithin radioRanges) := by
  apply BusProgram.touches_bind (dwtConfigureRf_writes config)
  intro config
  exact ⟨quietWithin 4 rfl (by decide) (by decide), quietWithin 1 rfl (by decide) (by decide),
    trivial⟩

theorem radioRanges_clear : ∀ f ∈ radioRanges, Clear settingRanges f.1 f.2 := by
  decide

theorem configure_runs (config : DwtConfig) (valid : config.Valid) :
    RunsAs (.configure config valid) := by
  intro l mem
  let l₁ :=
    { l with sysCFGreg := configuredSysCfg config l.sysCFGreg, longFrames := config.phrMode }
  let mem₁ := mem.poke ⟨sysCfgId, 0⟩ (leBytes 4 (configuredSysCfg config l.sysCFGreg))
  have hfield := configuredSysCfg_fields valid l.sysCFGreg
  have hstep : ((ApiCall.configure config valid).program l).run memory mem =
      (((dwtConfigureRadio config l₁).run memory mem₁).1.2,
        ((dwtConfigureRadio config l₁).run memory mem₁).2) := by
    rw [ApiCall.program, BusProgram.run_map, dwtConfigure, BusProgram.run_bind]
    rfl
  have hlocal : ((dwtConfigureRadio config l₁).run memory mem₁).1.2 = { l₁ with
      txFCTRL := ((dwtConfigureRadio config l₁).run memory mem₁).1.2.txFCTRL } := by
    rw [dwtConfigureRadio, BusProgram.run_bind]
    rfl
  have hradio := keeps_of_writesWithin (memory_remembers (Covers settingRanges) Quiet)
    (dwtConfigureRadio_writes config l₁) radioRanges_clear mem₁
  rw [hstep, hlocal]
  refine Performs.of_region ?_ hradio
  refine performs_sysCfg _ (fun _ => word32_poke _ _ _) (fun _ h => poke_of_file h) rfl ?_
    (fun _ => hfield) (fun hco => hco.disDrxb_kept (hfield .disDrxb)) fun _ => hfield .phrMode11
  exact fun f => by cases f <;> first | exact .inr ⟨_, rfl⟩ | exact .inl rfl

/-- What the running transceiver writes, and the crystal trim. -/
def transceiverRanges : List (RegAddr × Nat) :=
  [(⟨sysCtrlId, 0⟩, 4), (⟨sysMaskId, 0⟩, 4), (⟨sysStatusId, 0⟩, 4), (⟨txBufferId, 0⟩, 1024),
    (⟨pmscId, pmscCtrl0SoftresetOffset⟩, 1), (⟨fsCtrlId, fsXtaltOffset⟩, 1)]

theorem dwtRxreset_writes : WritesWithin transceiverRanges dwtRxreset := by
  have hwithin : Within transceiverRanges ⟨pmscId, pmscCtrl0SoftresetOffset⟩ 1 := by decide
  exact ⟨⟨by decide, hwithin⟩, ⟨by decide, hwithin⟩, trivial⟩

theorem sysCtrl_byte {index : Nat} {byte : Byte} (h : index < 4) :
    QuietWithin transceiverRanges ⟨sysCtrlId, index⟩ [byte] := by
  have hfile : sysCtrlId ≠ pmscId := by decide
  refine quietWithin 1 rfl (fun heq => hfile (congrArg RegAddr.recordNumber heq)) ?_
  exact ⟨_, List.mem_cons_self, rfl, Nat.zero_le _, (Nat.zero_add 4).symm ▸ h⟩

theorem sysCtrl_halfword {v : Word16} :
    QuietWithin transceiverRanges ⟨sysCtrlId, 0⟩ (leBytes 2 v) :=
  quietWithin 2 rfl (by decide) (by decide)

theorem dwtSyncrxbufptrs_writes : WritesWithin transceiverRanges dwtSyncrxbufptrs := by
  refine ⟨trivial, fun _ _ => ?_⟩
  apply BusProgram.touches_bind (BusProgram.touches_pure _)
  intro buff
  split
  · exact ⟨sysCtrl_byte (by decide), trivial⟩
  · trivial

theorem dwtForcetrxoff_writes (l : DwtLocalData) :
    WritesWithin transceiverRanges (dwtForcetrxoff l) := by
  refine ⟨trivial, fun _ _ => ⟨quietWithin 4 rfl (by decide) (by decide), sysCtrl_byte (by decide),
    quietWithin 4 rfl (by decide) (by decide), ?_⟩⟩
  apply BusProgram.touches_bind (BusProgram.touches_pure ())
  intro _
  apply BusProgram.touches_bind dwtSyncrxbufptrs_writes
  exact fun _ => ⟨quietWithin 4 rfl (by decide) (by decide), trivial⟩

theorem dwtStarttxFrame_writes (mode temp : Byte) (l : DwtLocalData) :
    WritesWithin transceiverRanges (dwtStarttxFrame mode temp l) := by
  unfold dwtStarttxFrame
  split
  · refine ⟨sysCtrl_byte (by decide), trivial, fun _ _ => ?_⟩
    apply BusProgram.touches_bind (BusProgram.touches_pure _)
    intro checkTxOK
    split
    · trivial
    · exact ⟨sysCtrl_byte (by decide), trivial⟩
  · exact ⟨sysCtrl_byte (by decide), trivial⟩

theorem dwtStarttx_writes (mode : Byte) (l : DwtLocalData) :
    WritesWithin transceiverRanges (dwtStarttx mode l) := by
  unfold dwtStarttx
  split
  · refine ⟨sysCtrl_byte (by decide), ?_⟩
    apply BusProgram.touches_bind (BusProgram.touches_pure ())
    exact fun _ => dwtStarttxFrame_writes mode _ _
  · exact dwtStarttxFrame_writes mode 0 l

theorem dwtRxenableCheck_writes (mode : Byte) (l : DwtLocalData) :
    WritesWithin transceiverRanges (dwtRxenableCheck mode l) := by
  refine ⟨trivial, fun _ _ => ?_⟩
  apply BusProgram.touches_bind (BusProgram.touches_pure _)
  intro temp1
  split
  · apply BusProgram.touches_bind (dwtForcetrxoff_writes l)
    intro l
    split
    · exact ⟨sysCtrl_halfword, trivial⟩
    · trivial
  · trivial

theorem dwtRxenableStart_writes (mode : Byte) (l : DwtLocalData) :
    WritesWithin transceiverRanges (dwtRxenableStart mode l) := by
  unfold dwtRxenableStart
  split
  · refine ⟨sysCtrl_halfword, ?_⟩
    apply BusProgram.touches_bind (BusProgram.touches_pure ())
    exact fun _ => dwtRxenableCheck_writes mode l
  · exact ⟨sysCtrl_halfword, trivial⟩

theorem dwtRxenable_writes (mode : Byte) (l : DwtLocalData) :
    WritesWithin transceiverRanges (dwtRxenable mode l) := by
  have hstart := dwtRxenableStart_writes mode l
  unfold dwtRxenable
  split
  · exact BusProgram.touches_bind dwtSyncrxbufptrs_writes fun _ => hstart
  · exact hstart

/-- The check on the length keeps the frame in the buffer. -/
theorem dwtWritetxdata_writes (txFrameBytes : List Byte) (txBufferOffset : Nat) :
    WritesWithin transceiverRanges (dwtWritetxdata txFrameBytes txBufferOffset) := by
  unfold dwtWritetxdata
  split
  next hfits =>
    have hbuffer : ((⟨txBufferId, 0⟩, 1024) : RegAddr × Nat) ∈ transceiverRanges := by decide
    have hfile : txBufferId ≠ pmscId := by decide
    have hlength := List.length_take_le' (txFrameBytes.length - 2) txFrameBytes
    refine ⟨quietWithin _ rfl (fun heq => hfile (congrArg RegAddr.recordNumber heq)) ?_, trivial⟩
    refine ⟨_, hbuffer, rfl, Nat.zero_le _, ?_⟩
    change txBufferOffset + _ ≤ 0 + 1024
    omega
  next => trivial

/-- The copies of the registers are as they were. -/
def SameCopies (l l' : DwtLocalData) : Prop :=
  l'.sysCFGreg = l.sysCFGreg ∧ l'.dblbuffon = l.dblbuffon ∧ l'.longFrames = l.longFrames ∧
    l'.txFCTRL = l.txFCTRL

theorem dwtForcetrxoff_returns (l : DwtLocalData) : (dwtForcetrxoff l).Returns (SameCopies l) := by
  intro _ _
  apply BusProgram.returns_bind (BusProgram.returns_any _)
  intro _ _
  apply BusProgram.returns_bind (BusProgram.returns_any dwtSyncrxbufptrs)
  exact fun _ _ => ⟨rfl, rfl, rfl, rfl⟩

theorem dwtStarttxFrame_returns (mode temp : Byte) (l : DwtLocalData) :
    (dwtStarttxFrame mode temp l).Returns fun result => SameCopies l result.2 := by
  unfold dwtStarttxFrame
  split
  · apply BusProgram.returns_bind (BusProgram.returns_any (dwtWrite8bitoffsetreg _ _ _))
    intro _ _
    apply BusProgram.returns_bind (BusProgram.returns_any _)
    intro checkTxOK _
    split <;> exact ⟨rfl, rfl, rfl, rfl⟩
  · exact ⟨rfl, rfl, rfl, rfl⟩

theorem dwtStarttx_returns (mode : Byte) (l : DwtLocalData) :
    (dwtStarttx mode l).Returns fun result => SameCopies l result.2 := by
  unfold dwtStarttx
  split
  · exact dwtStarttxFrame_returns mode _ { l with wait4resp := 1 }
  · exact dwtStarttxFrame_returns mode 0 l

theorem dwtRxenable_returns (mode : Byte) (l : DwtLocalData) :
    (dwtRxenable mode l).Returns fun result => SameCopies l result.2 := by
  have hcheck : (dwtRxenableCheck mode l).Returns fun result => SameCopies l result.2 := by
    apply BusProgram.returns_bind (BusProgram.returns_any _)
    intro temp1 _
    split
    · apply BusProgram.returns_bind (dwtForcetrxoff_returns l)
      intro l' hsame
      split <;> exact hsame
    · exact ⟨rfl, rfl, rfl, rfl⟩
  have hstart : (dwtRxenableStart mode l).Returns fun result => SameCopies l result.2 := by
    unfold dwtRxenableStart
    split
    · exact hcheck
    · exact ⟨rfl, rfl, rfl, rfl⟩
  unfold dwtRxenable
  split
  · exact BusProgram.returns_bind (BusProgram.returns_any dwtSyncrxbufptrs) fun _ _ => hstart
  · exact hstart

/-- The calls that set nothing. -/
def ApiCall.idle : ApiCall → Bool
  | .setinterrupt .. | .setxtaltrim .. | .writetxdata .. | .writetxfctrl .. | .starttx ..
  | .rxenable .. | .forcetrxoff | .rxreset => true
  | _ => false

theorem ApiCall.idle_sets {c : ApiCall} (h : c.idle = true) (f : Setting) : c.sets f = none := by
  cases c <;> first | rfl | cases h

/-- Where a call writes. -/
def ApiCall.footprint : ApiCall → List (RegAddr × Nat)
  | .configure .. => configRanges
  | .writetxfctrl .. => [(⟨txFctrlId, 0⟩, 4)]
  | .setinterrupt .. | .setxtaltrim .. | .writetxdata .. | .starttx .. | .rxenable ..
  | .forcetrxoff | .rxreset => transceiverRanges
  | _ => settingRanges

theorem ApiCall.idle_writes {c : ApiCall} (h : c.idle = true) (l : DwtLocalData) :
    WritesWithin c.footprint (c.program l) := by
  cases c with
  | setinterrupt bitmask enable =>
      have hmask : Within transceiverRanges ⟨sysMaskId, 0⟩ 4 := by decide
      exact ⟨trivial, fun _ _ => ⟨quietWithin 4 rfl (by decide) hmask, trivial⟩⟩
  | setxtaltrim value =>
      have htrim : Within transceiverRanges ⟨fsCtrlId, fsXtaltOffset⟩ 1 := by decide
      exact ⟨quietWithin 1 rfl (by decide) htrim, trivial⟩
  | writetxdata txFrameBytes txBufferOffset =>
      exact BusProgram.touches_map (dwtWritetxdata_writes _ _) _
  | writetxfctrl txFrameLength txBufferOffset ranging =>
      have hctrl : Within [(⟨txFctrlId, 0⟩, 4)] ⟨txFctrlId, 0⟩ 4 := by decide
      exact ⟨quietWithin 4 rfl (by decide) hctrl, trivial⟩
  | starttx mode => exact BusProgram.touches_map (dwtStarttx_writes mode l) _
  | rxenable mode => exact BusProgram.touches_map (dwtRxenable_writes mode l) _
  | forcetrxoff => exact dwtForcetrxoff_writes l
  | rxreset => exact BusProgram.touches_map dwtRxreset_writes _
  | _ => cases h

theorem ApiCall.idle_returns {c : ApiCall} (h : c.idle = true) (l : DwtLocalData) :
    (c.program l).Returns (SameCopies l) := by
  have hsame : SameCopies l l := ⟨rfl, rfl, rfl, rfl⟩
  cases c with
  | setinterrupt bitmask enable => exact fun _ _ => hsame
  | setxtaltrim value => exact hsame
  | writetxdata txFrameBytes txBufferOffset =>
      exact BusProgram.returns_bind (BusProgram.returns_any (dwtWritetxdata _ _)) fun _ _ => hsame
  | writetxfctrl txFrameLength txBufferOffset ranging => exact hsame
  | starttx mode => exact BusProgram.returns_map (dwtStarttx_returns mode l)
  | rxenable mode => exact BusProgram.returns_map (dwtRxenable_returns mode l)
  | forcetrxoff => exact dwtForcetrxoff_returns l
  | rxreset => exact hsame
  | _ => cases h

theorem ApiCall.idle_clear {c : ApiCall} (h : c.idle = true) :
    ∀ f ∈ c.footprint, Clear settingRanges f.1 f.2 := by
  have htransceiver : ∀ f ∈ transceiverRanges, Clear settingRanges f.1 f.2 := by decide
  cases c with
  | writetxfctrl txFrameLength txBufferOffset ranging =>
      change ∀ f ∈ [((⟨txFctrlId, 0⟩, 4) : RegAddr × Nat)], Clear settingRanges f.1 f.2
      decide
  | _ => first | exact htransceiver | cases h

theorem ApiCall.runs {c : ApiCall} (h : c.idle = false) : RunsAs c := by
  cases c with
  | configure config valid => exact configure_runs config valid
  | setrxantennadelay rxDelay => exact setrxantennadelay_runs rxDelay
  | settxantennadelay txDelay => exact settxantennadelay_runs txDelay
  | setrxaftertxdelay rxDelayTime => exact setrxaftertxdelay_runs rxDelayTime
  | setpreambledetecttimeout timeout => exact setpreambledetecttimeout_runs timeout
  | setrxtimeout time => exact setrxtimeout_runs time
  | enableframefilter enable => exact enableframefilter_runs enable
  | setsmarttxpower enable => exact setsmarttxpower_runs enable
  | enableautoack responseDelayTime => exact enableautoack_runs responseDelayTime
  | setdblrxbuffmode enable => exact setdblrxbuffmode_runs enable
  | _ => cases h

/-! On a chip that remembers its settings. -/

/-- Reads of settings only. -/
abbrev ReadsSettings (a : RegAddr) (n : Nat) : Prop := ∀ i < n, Covers settingRanges (a.offset i)

theorem quiet_of_ne {a : RegAddr} {bytes : List Byte}
    (ha : a ≠ ⟨pmscId, pmscCtrl0SoftresetOffset⟩) : Quiet a bytes := fun h => ha h.1

theorem sysCfg_read : ReadsSettings ⟨sysCfgId, 0⟩ 4 :=
  fun _ hi => Covers.of_mem (by decide : (⟨sysCfgId, 0⟩, 4) ∈ settingRanges) hi

theorem ackRespT_read : ReadsSettings ⟨ackRespTId, 0⟩ 4 :=
  fun _ hi => Covers.of_mem (by decide : (⟨ackRespTId, 0⟩, 4) ∈ settingRanges) hi

theorem sysCfgTop_read : ReadsSettings ⟨sysCfgId, 3⟩ 1 := by
  intro i hi
  have hword : ((⟨sysCfgId, 0⟩, 4) : RegAddr × Nat) ∈ settingRanges := by decide
  exact ⟨_, hword, rfl, Nat.zero_le _, Nat.add_lt_add_left hi 3⟩

theorem settingWrite {a : RegAddr} {bytes : List Byte} (n : Nat) (hn : bytes.length = n)
    (ha : a ≠ ⟨pmscId, pmscCtrl0SoftresetOffset⟩) (hwithin : Within settingRanges a n) :
    QuietWithin settingRanges a bytes := quietWithin n hn ha hwithin

theorem ApiCall.touches {c : ApiCall} (h : c.idle = false) (l : DwtLocalData) :
    (c.program l).Touches ReadsSettings (QuietWithin c.footprint) := by
  cases c with
  | configure config valid =>
      have hsysCfg : Within configRanges ⟨sysCfgId, 0⟩ 4 := by decide
      apply BusProgram.touches_map
      refine ⟨quietWithin 4 rfl (by decide) hsysCfg, ?_⟩
      apply BusProgram.touches_bind (BusProgram.touches_pure ())
      intro _
      refine (dwtConfigureRadio_writes config _).mono (fun _ _ h => h) fun _ _ hw => ?_
      exact ⟨hw.1, hw.2.mono (List.subset_cons_self _ _)⟩
  | setrxantennadelay rxDelay => exact ⟨settingWrite 2 rfl (by decide) (by decide), trivial⟩
  | settxantennadelay txDelay => exact ⟨settingWrite 2 rfl (by decide) (by decide), trivial⟩
  | setrxaftertxdelay rxDelayTime =>
      exact ⟨ackRespT_read, fun _ _ => ⟨settingWrite 4 rfl (by decide) (by decide), trivial⟩⟩
  | setpreambledetecttimeout timeout =>
      exact ⟨settingWrite 2 rfl (by decide) (by decide), trivial⟩
  | setrxtimeout time =>
      refine ⟨sysCfgTop_read, fun _ _ => ?_⟩
      apply BusProgram.touches_bind (BusProgram.touches_pure _)
      intro temp
      split
      · exact ⟨settingWrite 2 rfl (by decide) (by decide),
          settingWrite 1 rfl (by decide) (by decide), trivial⟩
      · exact ⟨settingWrite 1 rfl (by decide) (by decide), trivial⟩
  | enableframefilter enable =>
      exact ⟨sysCfg_read, fun _ _ => ⟨settingWrite 4 rfl (by decide) (by decide), trivial⟩⟩
  | setsmarttxpower enable =>
      exact ⟨sysCfg_read, fun _ _ => ⟨settingWrite 4 rfl (by decide) (by decide), trivial⟩⟩
  | enableautoack responseDelayTime =>
      exact ⟨settingWrite 1 rfl (by decide) (by decide),
        settingWrite 4 rfl (by decide) (by decide), trivial⟩
  | setdblrxbuffmode enable => exact ⟨settingWrite 4 rfl (by decide) (by decide), trivial⟩
  | _ => cases h

/-- A call writes in its footprint. -/
theorem ApiCall.writesWithin (c : ApiCall) (l : DwtLocalData) :
    WritesWithin c.footprint (c.program l) := by
  cases hidle : c.idle with
  | true => exact c.idle_writes hidle l
  | false => exact (c.touches hidle l).mono (fun _ _ _ => trivial) fun _ _ h => h

section Chip

variable {δ : Type} {dev : Device RegAddr Byte δ} {registers : δ → RegisterFile}

/-- One call. -/
theorem ApiCall.performs (h : Remembers dev registers (Covers settingRanges) Quiet) (c : ApiCall)
    (l : DwtLocalData) (d : δ) :
    Performs c.sets l (registers d) ((c.program l).run dev d).1
      (registers ((c.program l).run dev d).2) := by
  cases hidle : c.idle with
  | false =>
      obtain ⟨hresult, hregion⟩ :=
        h.run_memory ((c.touches hidle l).mono (fun _ _ hread => hread) fun _ _ hw => hw.1)
          fun b _ => (rfl : registers d b = registers d b)
      rw [hresult]
      exact (c.runs hidle l (registers d)).of_region hregion
  | true =>
      obtain ⟨hcfg, hdbl, hlong, _⟩ := (c.idle_returns hidle l).run dev d
      have hregion := keeps_of_writesWithin h (c.writesWithin l) (c.idle_clear hidle) d
      have hkept : Performs c.sets l (registers d) ((c.program l).run dev d).1 (registers d) := by
        refine fun hco => ⟨⟨hco.sysCFGreg.trans hcfg.symm, ?_, ?_⟩, fun f => ?_⟩
        · rw [hdbl, hcfg]
          exact hco.dblbuffon
        · rw [hlong, hcfg]
          exact hco.longFrames
        · rw [c.idle_sets hidle, Option.getD_none]
      exact hkept.of_region hregion

/-- After any run of driver calls every setting is what the last call to set it has set it to,
and the copies of the driver are true, on every chip that remembers its settings. -/
theorem runCalls_settings (h : Remembers dev registers (Covers settingRanges) Quiet)
    (cs : List ApiCall) (l : DwtLocalData) (d : δ) (hco : Coherent l (registers d)) :
    Coherent ((runCalls l cs).run dev d).1 (registers ((runCalls l cs).run dev d).2) ∧
      ∀ f : Setting, f.value (registers ((runCalls l cs).run dev d).2) =
        cs.foldl (fun v c => (c.sets f).getD v) (f.value (registers d)) := by
  induction cs generalizing l d with
  | nil => exact ⟨hco, fun _ => rfl⟩
  | cons c cs ih =>
      obtain ⟨hco₁, hvalue₁⟩ := c.performs h l d hco
      obtain ⟨hco', hvalue'⟩ := ih _ _ hco₁
      simp only [runCalls, BusProgram.run_bind, List.foldl_cons]
      exact ⟨hco', fun f => (hvalue' f).trans (by rw [hvalue₁])⟩

end Chip

/-- Registers of zeros, but for the flag that turns double buffering off. -/
def singleBuffered : RegisterFile := poke (fun _ => 0) ⟨sysCfgId, 0⟩ (leBytes 4 sysCfgDisDrxb)

def singleBufferedData : DwtLocalData :=
  { partID := 0, lotID := 0, longFrames := 0, otprev := 0, txFCTRL := 0, initXtrim := 0,
    dblbuffon := 0, sysCFGreg := sysCfgDisDrxb, sleepMode := 0, wait4resp := 0 }

theorem runCalls_settings_timeouts :
    (Setting.sysCfg .rxwtoe).value ((runCalls singleBufferedData
        [.setrxtimeout 400, .rxenable 0, .setdblrxbuffmode true, .setrxtimeout 0]).run memory
          singleBuffered).2 = 0 ∧
      Setting.rxFwto.value ((runCalls singleBufferedData
        [.setrxtimeout 400, .rxenable 0, .setdblrxbuffmode true, .setrxtimeout 0]).run memory
          singleBuffered).2 = 400 := by
  have hco : Coherent singleBufferedData singleBuffered :=
    ⟨word32_poke _ _ _, iff_of_false (not_not_intro rfl) (by decide), by decide⟩
  have hrun := runCalls_settings (memory_remembers (Covers settingRanges) Quiet)
    [.setrxtimeout 400, .rxenable 0, .setdblrxbuffmode true, .setrxtimeout 0] singleBufferedData
    singleBuffered hco
  exact ⟨hrun.2 (.sysCfg .rxwtoe), hrun.2 .rxFwto⟩

end Breadcrumb.Driver
