import Breadcrumb.Machine.BitFields
import Breadcrumb.Driver.Transceiver

/-!
The settings of the DW1000 that the driver changes by itself: fields of SYS_CFG,
of which the driver keeps a copy, and delays and timeouts in registers of their
own. Some functions change SYS_CFG through the copy, some read it back first,
and one writes its upper byte only. Each of them is to set what it is called
for, keep the rest, and keep the copy true.
-/

namespace Breadcrumb.Driver

open Breadcrumb.Machine Breadcrumb.Machine.RegisterFile
open Breadcrumb.Uwb (pmscId sysCtrlId sysStatusId txBufferId pmscCtrl0SoftresetOffset
  ackRespTW4rTimMask)

/-- The fields of SYS_CFG the driver changes. -/
inductive SysCfgField where
  | ffe
  | ffAllEn
  | disDrxb
  | phrMode11
  | disStxp
  | rxm110k
  | rxwtoe
  | autoack
  deriving DecidableEq

def SysCfgField.mask : SysCfgField → Word32
  | .ffe => sysCfgFfe
  | .ffAllEn => sysCfgFfAllEn
  | .disDrxb => sysCfgDisDrxb
  | .phrMode11 => sysCfgPhrMode11
  | .disStxp => sysCfgDisStxp
  | .rxm110k => sysCfgRxm110k
  | .rxwtoe => sysCfgRxwtoe
  | .autoack => sysCfgAutoack

inductive Setting where
  | sysCfg (field : SysCfgField)
  | rxFwto
  | w4rTim
  | ackTim
  | rxAntd
  | txAntd
  | drxPretoc
  deriving DecidableEq

/-- What the registers say a setting is. -/
def Setting.value (mem : RegisterFile) : Setting → Word32
  | .sysCfg field => mem.word32 ⟨sysCfgId, 0⟩ &&& field.mask
  | .rxFwto => (mem.word16 ⟨rxFwtoId, 0⟩).setWidth 32
  | .w4rTim => mem.word32 ⟨ackRespTId, 0⟩ &&& ackRespTW4rTimMask
  | .ackTim => (mem ⟨ackRespTId, ackRespTAckTimOffset⟩).setWidth 32
  | .rxAntd => (mem.word16 ⟨ldeIfId, ldeRxantdOffset⟩).setWidth 32
  | .txAntd => (mem.word16 ⟨txAntdId, 0⟩).setWidth 32
  | .drxPretoc => (mem.word16 ⟨drxConfId, drxPretocOffset⟩).setWidth 32

/-- Where the settings stand. -/
def settingRanges : List (RegAddr × Nat) :=
  [(⟨sysCfgId, 0⟩, 4), (⟨rxFwtoId, 0⟩, 2), (⟨ackRespTId, 0⟩, 4), (⟨ldeIfId, ldeRxantdOffset⟩, 2),
    (⟨txAntdId, 0⟩, 2), (⟨drxConfId, drxPretocOffset⟩, 2)]

/-- Every write but the one that resets the whole chip. -/
def Quiet (a : RegAddr) (bytes : List Byte) : Prop :=
  ¬ (a = ⟨pmscId, pmscCtrl0SoftresetOffset⟩ ∧ bytes = [pmscCtrl0ResetAll])

instance (a : RegAddr) (bytes : List Byte) : Decidable (Quiet a bytes) :=
  inferInstanceAs (Decidable (¬ _))

/-! The calls. -/

/-- Calls of the driver, with arguments that its assertions let through. Nothing is asserted of
`nsSFD` and `ranging`; they are flags, of zero or one. -/
inductive ApiCall where
  | configure (config : DwtConfig) (valid : config.Valid)
  | setrxantennadelay (rxDelay : Word16)
  | settxantennadelay (txDelay : Word16)
  | setrxaftertxdelay (rxDelayTime : Word32)
  | setpreambledetecttimeout (timeout : Word16)
  | setrxtimeout (time : Word16)
  | enableframefilter (enable : Word16)
  | setsmarttxpower (enable : Bool)
  | enableautoack (responseDelayTime : Byte)
  | setdblrxbuffmode (enable : Bool)
  | setinterrupt (bitmask : Word32) (enable : Bool)
  | setxtaltrim (value : Byte)
  | writetxdata (txFrameBytes : List Byte) (txBufferOffset : Nat)
      (checkSum : 2 ≤ txFrameBytes.length)
  | writetxfctrl (txFrameLength txBufferOffset : Word16) (ranging : Word32)
      (length : txFrameLength ≤ 1023) (flag : ranging ≤ 1)
  | starttx (mode : Byte)
  | rxenable (mode : Byte)
  | forcetrxoff
  | rxreset

/-- The function of a call, with the local data behind it. -/
def ApiCall.program (l : DwtLocalData) : ApiCall → Bus DwtLocalData
  | .configure config _ => Prod.snd <$> dwtConfigure config l
  | .setrxantennadelay rxDelay => (fun _ => l) <$> dwtSetrxantennadelay rxDelay
  | .settxantennadelay txDelay => (fun _ => l) <$> dwtSettxantennadelay txDelay
  | .setrxaftertxdelay rxDelayTime => (fun _ => l) <$> dwtSetrxaftertxdelay rxDelayTime
  | .setpreambledetecttimeout timeout => (fun _ => l) <$> dwtSetpreambledetecttimeout timeout
  | .setrxtimeout time => dwtSetrxtimeout time l
  | .enableframefilter enable => dwtEnableframefilter enable l
  | .setsmarttxpower enable => dwtSetsmarttxpower enable l
  | .enableautoack responseDelayTime => dwtEnableautoack responseDelayTime l
  | .setdblrxbuffmode enable => dwtSetdblrxbuffmode enable l
  | .setinterrupt bitmask enable => (fun _ => l) <$> dwtSetinterrupt bitmask enable
  | .setxtaltrim value => (fun _ => l) <$> dwtSetxtaltrim value
  | .writetxdata txFrameBytes txBufferOffset _ =>
      (fun _ => l) <$> dwtWritetxdata txFrameBytes txBufferOffset
  | .writetxfctrl txFrameLength txBufferOffset ranging _ _ =>
      (fun _ => l) <$> dwtWritetxfctrl txFrameLength txBufferOffset ranging l
  | .starttx mode => Prod.snd <$> dwtStarttx mode l
  | .rxenable mode => Prod.snd <$> dwtRxenable mode l
  | .forcetrxoff => dwtForcetrxoff l
  | .rxreset => (fun _ => l) <$> dwtRxreset

/-- What a call is for: the settings it sets, and to what. -/
def ApiCall.sets : ApiCall → Setting → Option Word32
  | .configure config _, .sysCfg .rxm110k =>
      some (if config.dataRate = dwtBr110k then sysCfgRxm110k else 0)
  | .configure config _, .sysCfg .phrMode11 =>
      some ((config.phrMode.setWidth 32 <<< 16) &&& sysCfgPhrMode11)
  | .setrxantennadelay rxDelay, .rxAntd => some (rxDelay.setWidth 32)
  | .settxantennadelay txDelay, .txAntd => some (txDelay.setWidth 32)
  | .setrxaftertxdelay rxDelayTime, .w4rTim => some (rxDelayTime &&& ackRespTW4rTimMask)
  | .setpreambledetecttimeout timeout, .drxPretoc => some (timeout.setWidth 32)
  | .setrxtimeout time, .sysCfg .rxwtoe => some (if time > 0 then sysCfgRxwtoe else 0)
  | .setrxtimeout time, .rxFwto => if time > 0 then some (time.setWidth 32) else none
  | .enableframefilter enable, .sysCfg .ffe => some (if enable ≠ 0 then sysCfgFfe else 0)
  | .enableframefilter enable, .sysCfg .ffAllEn =>
      if enable ≠ 0 then some (enable.setWidth 32 &&& sysCfgFfAllEn) else none
  | .setsmarttxpower enable, .sysCfg .disStxp => some (if enable then 0 else sysCfgDisStxp)
  | .enableautoack _, .sysCfg .autoack => some sysCfgAutoack
  | .enableautoack responseDelayTime, .ackTim => some (responseDelayTime.setWidth 32)
  | .setdblrxbuffmode enable, .sysCfg .disDrxb => some (if enable then 0 else sysCfgDisDrxb)
  | _, _ => none

/-- What the local data repeats of the registers. -/
structure Coherent (l : DwtLocalData) (mem : RegisterFile) : Prop where
  sysCFGreg : mem.word32 ⟨sysCfgId, 0⟩ = l.sysCFGreg
  dblbuffon : l.dblbuffon ≠ 0 ↔ l.sysCFGreg &&& sysCfgDisDrxb = 0
  longFrames : l.sysCFGreg &&& sysCfgPhrMode11 =
    (l.longFrames.setWidth 32 <<< 16) &&& sysCfgPhrMode11

/-- A run of calls. -/
def runCalls (l : DwtLocalData) : List ApiCall → Bus DwtLocalData
  | [] => pure l
  | c :: cs => do
      let l ← c.program l
      runCalls l cs

/-! Settings and the registers they stand in. -/

variable {mem mem' : RegisterFile} {l l' : DwtLocalData}

/-- The bytes a setting is read from. -/
def Setting.range : Setting → RegAddr × Nat
  | .sysCfg _ => (⟨sysCfgId, 0⟩, 4)
  | .rxFwto => (⟨rxFwtoId, 0⟩, 2)
  | .w4rTim => (⟨ackRespTId, 0⟩, 4)
  | .ackTim => (⟨ackRespTId, ackRespTAckTimOffset⟩, 1)
  | .rxAntd => (⟨ldeIfId, ldeRxantdOffset⟩, 2)
  | .txAntd => (⟨txAntdId, 0⟩, 2)
  | .drxPretoc => (⟨drxConfId, drxPretocOffset⟩, 2)

theorem Setting.value_eq_of_range {f : Setting}
    (h : ∀ i < f.range.2, mem (f.range.1.offset i) = mem' (f.range.1.offset i)) :
    f.value mem = f.value mem' := by
  cases f with
  | sysCfg field => exact congrArg (assemble 32 · &&& field.mask) (peek_congr h)
  | w4rTim => exact congrArg (assemble 32 · &&& ackRespTW4rTimMask) (peek_congr h)
  | ackTim => exact congrArg (BitVec.setWidth 32) (h 0 Nat.one_pos)
  | rxFwto => exact congrArg (fun bytes => (assemble 16 bytes).setWidth 32) (peek_congr h)
  | rxAntd => exact congrArg (fun bytes => (assemble 16 bytes).setWidth 32) (peek_congr h)
  | txAntd => exact congrArg (fun bytes => (assemble 16 bytes).setWidth 32) (peek_congr h)
  | drxPretoc => exact congrArg (fun bytes => (assemble 16 bytes).setWidth 32) (peek_congr h)

theorem Setting.covered (f : Setting) {i : Nat} (hi : i < f.range.2) :
    Covers settingRanges (f.range.1.offset i) := by
  cases f with
  | ackTim =>
      have hword : ((⟨ackRespTId, 0⟩, 4) : RegAddr × Nat) ∈ settingRanges := by decide
      exact ⟨_, hword, rfl, Nat.zero_le _, Nat.add_lt_add_left hi 3⟩
  | sysCfg field => exact Covers.of_mem (by decide : (⟨sysCfgId, 0⟩, 4) ∈ settingRanges) hi
  | rxFwto => exact Covers.of_mem (by decide : (⟨rxFwtoId, 0⟩, 2) ∈ settingRanges) hi
  | w4rTim => exact Covers.of_mem (by decide : (⟨ackRespTId, 0⟩, 4) ∈ settingRanges) hi
  | rxAntd => exact Covers.of_mem (by decide : (⟨ldeIfId, ldeRxantdOffset⟩, 2) ∈ settingRanges) hi
  | txAntd => exact Covers.of_mem (by decide : (⟨txAntdId, 0⟩, 2) ∈ settingRanges) hi
  | drxPretoc =>
      exact Covers.of_mem (by decide : (⟨drxConfId, drxPretocOffset⟩, 2) ∈ settingRanges) hi

theorem Setting.value_congr (h : ∀ b, Covers settingRanges b → mem b = mem' b) (f : Setting) :
    f.value mem = f.value mem' := value_eq_of_range fun _ hi => h _ (f.covered hi)

theorem Setting.value_poke_file {f : Setting} {a : RegAddr} {bytes : List Byte}
    (h : f.range.1.recordNumber ≠ a.recordNumber) : f.value (mem.poke a bytes) = f.value mem :=
  value_eq_of_range fun _ _ => poke_of_file h

/-- Each register of two bytes stands in a file of its own. -/
theorem Setting.file_ne {f g : Setting} (hg : g.range.2 = 2) (h : f ≠ g) :
    f.range.1.recordNumber ≠ g.range.1.recordNumber := by
  cases f <;> cases g <;> first | exact absurd rfl h | exact Nat.ne_of_beq_eq_false rfl | cases hg

theorem SysCfgField.masks_apart {f g : SysCfgField} (h : f ≠ g) : f.mask &&& g.mask = 0 := by
  cases f <;> cases g <;> first | exact absurd rfl h | rfl

/-- Setting one field of SYS_CFG, seen from another. -/
theorem setField_mask (reg v : Word32) (f g : SysCfgField) :
    setField reg f.mask v &&& g.mask = if f = g then v &&& f.mask else reg &&& g.mask := by
  split
  next h => rw [h, setField_and_self]
  next h => rw [setField_and_apart (SysCfgField.masks_apart h)]

theorem SysCfgField.mask_within (g : SysCfgField) : sysCfgMask &&& g.mask = g.mask := by
  cases g <;> rfl

theorem Coherent.congr (h : ∀ b, Covers settingRanges b → mem b = mem' b)
    (hco : Coherent l mem) : Coherent l mem' := by
  have hword : mem.word32 ⟨sysCfgId, 0⟩ = mem'.word32 ⟨sysCfgId, 0⟩ :=
    congrArg (assemble 32) (peek_congr fun i hi => h _ (Covers.of_mem (by simp [settingRanges]) hi))
  exact ⟨hword ▸ hco.sysCFGreg, hco.dblbuffon, hco.longFrames⟩

/-! What a call does to the settings. -/

/-- From local data and registers that agree, some settings are set, the others are kept, and
the two agree again. -/
def Performs (sets : Setting → Option Word32) (l : DwtLocalData) (mem : RegisterFile)
    (l' : DwtLocalData) (mem' : RegisterFile) : Prop :=
  Coherent l mem → Coherent l' mem' ∧ ∀ f : Setting, f.value mem' = (sets f).getD (f.value mem)

theorem Performs.trans {sets sets' : Setting → Option Word32} {l₁ : DwtLocalData}
    {mem₁ : RegisterFile} (h : Performs sets l mem l₁ mem₁) (h' : Performs sets' l₁ mem₁ l' mem') :
    Performs (fun f => (sets' f).or (sets f)) l mem l' mem' := by
  intro hco
  obtain ⟨hco₁, hvalue₁⟩ := h hco
  obtain ⟨hco', hvalue'⟩ := h' hco₁
  refine ⟨hco', fun f => ?_⟩
  rw [hvalue', hvalue₁]
  dsimp only
  cases sets' f <;> rfl

/-- A single setting. -/
def setsOnly (g : Setting) (v : Word32) : Setting → Option Word32 :=
  fun f => if f = g then some v else none

/-- A register of two bytes is written. -/
theorem performs_halfword (g : Setting) {a : RegAddr} (v : Word16) (hrange : g.range = (a, 2))
    (hvalue : ∀ mem, g.value mem = (mem.word16 a).setWidth 32) :
    Performs (setsOnly g (v.setWidth 32)) l mem l (mem.poke a (leBytes 2 v)) := by
  intro hco
  have hfile (f : Setting) (hf : f ≠ g) : f.range.1.recordNumber ≠ a.recordNumber := by
    have hne := Setting.file_ne (congrArg Prod.snd hrange) hf
    rwa [hrange] at hne
  have hcfg : sysCfgId ≠ a.recordNumber := by
    apply hfile (.sysCfg .ffe)
    rintro rfl
    cases hrange
  refine ⟨⟨?_, hco.dblbuffon, hco.longFrames⟩, fun f => ?_⟩
  · rw [word32_poke_apart (.inl hcfg), hco.sysCFGreg]
  · unfold setsOnly
    split
    next h => rw [h, hvalue, word16_poke, Option.getD_some]
    next h => rw [Setting.value_poke_file (hfile f h), Option.getD_none]

/-- SYS_CFG is written: what becomes of its fields decides. -/
theorem performs_sysCfg (reg : Word32) {sets : Setting → Option Word32}
    (hword : Coherent l mem → mem'.word32 ⟨sysCfgId, 0⟩ = reg)
    (hframe : ∀ b, b.recordNumber ≠ sysCfgId → mem' b = mem b) (hreg : l'.sysCFGreg = reg)
    (hsets : ∀ f, sets f = none ∨ ∃ field, f = .sysCfg field)
    (hfields : Coherent l mem → ∀ field : SysCfgField,
      reg &&& field.mask = (sets (.sysCfg field)).getD (l.sysCFGreg &&& field.mask))
    (hdblbuffon : Coherent l mem → (l'.dblbuffon ≠ 0 ↔ reg &&& sysCfgDisDrxb = 0))
    (hlongFrames : Coherent l mem →
      reg &&& sysCfgPhrMode11 = (l'.longFrames.setWidth 32 <<< 16) &&& sysCfgPhrMode11) :
    Performs sets l mem l' mem' := by
  intro hco
  refine ⟨⟨?_, ?_, ?_⟩, fun f => ?_⟩
  · rw [hword hco, hreg]
  · rw [hreg]
    exact hdblbuffon hco
  · rw [hreg]
    exact hlongFrames hco
  · rcases eq_or_ne f.range.1.recordNumber sysCfgId with hfile | hfile
    · obtain ⟨field, rfl⟩ : ∃ field, f = .sysCfg field := by
        cases f <;> first | exact ⟨_, rfl⟩ | exact absurd hfile (Nat.ne_of_beq_eq_false rfl)
      rw [Setting.value, hword hco, hfields hco, Setting.value, hco.sysCFGreg]
    · have hnone : sets f = none := by
        apply (hsets f).resolve_right
        rintro ⟨field, rfl⟩
        exact hfile rfl
      rw [hnone, Option.getD_none]
      exact Setting.value_eq_of_range fun i _ => hframe _ hfile

/-- A field of SYS_CFG that keeps its value. -/
theorem SysCfgField.setField_other {reg v : Word32} (f g : SysCfgField) (h : f ≠ g) :
    setField reg f.mask v &&& g.mask = reg &&& g.mask := by
  rw [setField_mask, if_neg h]

theorem Coherent.phrMode_kept (hco : Coherent l mem) {reg : Word32}
    (h : reg &&& SysCfgField.phrMode11.mask = l.sysCFGreg &&& SysCfgField.phrMode11.mask) :
    reg &&& sysCfgPhrMode11 = (l.longFrames.setWidth 32 <<< 16) &&& sysCfgPhrMode11 :=
  h.trans hco.longFrames

theorem Coherent.disDrxb_kept (hco : Coherent l mem) {reg : Word32}
    (h : reg &&& SysCfgField.disDrxb.mask = l.sysCFGreg &&& SysCfgField.disDrxb.mask) :
    l.dblbuffon ≠ 0 ↔ reg &&& sysCfgDisDrxb = 0 := by
  have hreg : reg &&& sysCfgDisDrxb = l.sysCFGreg &&& sysCfgDisDrxb := h
  rw [hreg]
  exact hco.dblbuffon

/-- One field of SYS_CFG is written, and it is none that the local data repeats elsewhere. -/
theorem performs_field (f : SysCfgField) (v reg : Word32) (hdrxb : f ≠ .disDrxb)
    (hphr : f ≠ .phrMode11) (hword : Coherent l mem → mem'.word32 ⟨sysCfgId, 0⟩ = reg)
    (hframe : ∀ b, b.recordNumber ≠ sysCfgId → mem' b = mem b)
    (hreg : Coherent l mem → reg = setField l.sysCFGreg f.mask v) :
    Performs (setsOnly (.sysCfg f) (v &&& f.mask)) l mem { l with sysCFGreg := reg } mem' := by
  apply performs_sysCfg reg hword hframe rfl
  · intro g
    rcases eq_or_ne g (.sysCfg f) with rfl | hne
    · exact .inr ⟨f, rfl⟩
    · exact .inl (if_neg hne)
  · intro hco field
    rw [hreg hco, setField_mask, setsOnly]
    rcases eq_or_ne f field with rfl | hne
    · rw [if_pos rfl, if_pos rfl, Option.getD_some]
    · rw [if_neg hne, if_neg fun h => hne (Setting.sysCfg.inj h).symm, Option.getD_none]
  · exact fun hco => hco.disDrxb_kept (hreg hco ▸ f.setField_other _ hdrxb)
  · exact fun hco => hco.phrMode_kept (hreg hco ▸ f.setField_other _ hphr)

end Breadcrumb.Driver
