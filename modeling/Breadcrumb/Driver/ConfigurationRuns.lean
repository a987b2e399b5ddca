import Breadcrumb.Driver.SettingRuns

/-!
Runs of driver calls over the configuration. Whatever the calls behind it set
and send, the registers state the last configuration and stay set up for it.
-/

namespace Breadcrumb.Driver

open Breadcrumb.Machine Breadcrumb.Machine.RegisterFile
open Breadcrumb.Uwb (txFctrlId sysCtrlId)

/-- The device is set up for a configuration, and the driver works from it. -/
structure Configured (config : DwtConfig) (l : DwtLocalData) (mem : RegisterFile) : Prop where
  ofRegisters : DwtConfig.ofRegisters mem = config
  tuned : ∃ t, config.tuning = some t ∧
    ∀ w ∈ config.rfWrites t, mem.peek w.1 w.2.length = w.2
  rxm110k : mem.word32 ⟨sysCfgId, 0⟩ &&& sysCfgRxm110k =
    if config.dataRate = dwtBr110k then sysCfgRxm110k else 0
  txFctrl : mem.word32 ⟨txFctrlId, 0⟩ &&& txFctrlConfigMask =
    txFctrlWord config &&& txFctrlConfigMask
  txFCTRL : l.txFCTRL = txFctrlWord config

/-- The registers that have to do with settings or the configuration. -/
def deviceRanges : List (RegAddr × Nat) :=
  settingRanges ++ (tuningRanges ++ [(⟨txFctrlId, 0⟩, 4)])

theorem settingRanges_device : settingRanges ⊆ deviceRanges := List.subset_append_left _ _

theorem tuningRanges_device : tuningRanges ⊆ deviceRanges :=
  List.subset_append_of_subset_right _ (List.subset_append_left _ _)

theorem txFctrl_device : [((⟨txFctrlId, 0⟩ : RegAddr), 4)] ⊆ deviceRanges :=
  List.subset_append_of_subset_right _ (List.subset_append_right _ _)

/-- The configuration a call sets. -/
def ApiCall.configures : ApiCall → Option DwtConfig
  | .configure config _ => some config.withSfdTimeout
  | _ => none

def lastConfig (cs : List ApiCall) (last : Option DwtConfig) : Option DwtConfig :=
  cs.foldl (fun last c => c.configures.or last) last

/-- What is known to have been set. -/
structure Expected where
  config : Option DwtConfig
  settings : Setting → Option Word32

def Expected.call (e : Expected) (c : ApiCall) : Expected where
  config := c.configures.or e.config
  settings f := (c.sets f).or (e.settings f)

/-- The device is as it was set. -/
structure Meets (e : Expected) (l : DwtLocalData) (mem : RegisterFile) : Prop where
  coherent : Coherent l mem
  configured : ∀ config ∈ e.config, Configured config l mem
  settings : ∀ f, ∀ v ∈ e.settings f, f.value mem = v

theorem foldl_call_config (cs : List ApiCall) (e : Expected) :
    (cs.foldl Expected.call e).config = lastConfig cs e.config := by
  induction cs generalizing e with
  | nil => rfl
  | cons c cs ih => exact ih (e.call c)

variable {mem mem' : RegisterFile} {l l' : DwtLocalData} {config : DwtConfig}

theorem readField_congr {v : Nat} (shift : Nat) {reg reg' mask outer : Word32}
    (h : reg &&& outer = reg' &&& outer) (hwithin : outer &&& mask = mask) :
    readField v reg mask shift = readField v reg' mask shift := by
  have hmask : reg &&& mask = reg' &&& mask := by
    rw [← hwithin, ← BitVec.and_assoc, ← BitVec.and_assoc, h]
  rw [readField, readField, hmask]

theorem peek_tuning (h : ∀ b, Covers tuningRanges b → mem' b = mem b) {a : RegAddr} {n : Nat}
    (ha : (a, n) ∈ tuningRanges) : mem'.peek a n = mem.peek a n :=
  peek_congr fun _ hi => h _ (Covers.of_mem ha hi)

theorem rfWrites_mem {t : Tuning} {w : RegAddr × List Byte} (hw : w ∈ config.rfWrites t) :
    (w.1, w.2.length) ∈ tuningRanges :=
  (rfWrites_ranges config t).subset
    (List.mem_map_of_mem (f := fun w : RegAddr × List Byte => (w.1, w.2.length)) hw)

/-- A configuration stands as long as the tuning registers do, the fields it shares a register
with others in, and the driver's copy. -/
theorem Configured.keep (hconf : Configured config l mem)
    (htuning : ∀ b, Covers tuningRanges b → mem' b = mem b)
    (hphr : mem'.word32 ⟨sysCfgId, 0⟩ &&& sysCfgPhrMode11 =
      mem.word32 ⟨sysCfgId, 0⟩ &&& sysCfgPhrMode11)
    (hrate : mem'.word32 ⟨sysCfgId, 0⟩ &&& sysCfgRxm110k =
      mem.word32 ⟨sysCfgId, 0⟩ &&& sysCfgRxm110k)
    (htx : mem'.word32 ⟨txFctrlId, 0⟩ &&& txFctrlConfigMask =
      mem.word32 ⟨txFctrlId, 0⟩ &&& txFctrlConfigMask)
    (hl : l'.txFCTRL = l.txFCTRL) : Configured config l' mem' := by
  have hchan : mem'.word32 ⟨chanCtrlId, 0⟩ = mem.word32 ⟨chanCtrlId, 0⟩ :=
    congrArg (assemble 32) (peek_tuning htuning (by decide))
  have htune2 : mem'.word32 ⟨drxConfId, drxTune2Offset⟩ = mem.word32 ⟨drxConfId, drxTune2Offset⟩ :=
    congrArg (assemble 32) (peek_tuning htuning (by decide))
  have hsfdTO : mem'.word16 ⟨drxConfId, drxSfdtocOffset⟩ =
      mem.word16 ⟨drxConfId, drxSfdtocOffset⟩ :=
    congrArg (assemble 16) (peek_tuning htuning (by decide))
  have hofRegisters : DwtConfig.ofRegisters mem' = DwtConfig.ofRegisters mem := by
    unfold DwtConfig.ofRegisters
    dsimp only
    have hphrMode := readField_congr (v := 8) 16 hphr (BitVec.and_self)
    have hprf := readField_congr (v := 8) 16 htx
      (rfl : txFctrlConfigMask &&& txFctrlTxprfMask = _)
    have hplen := readField_congr (v := 8) 16 htx
      (rfl : txFctrlConfigMask &&& txFctrlTxpsrPeMask = _)
    have hdataRate := readField_congr (v := 8) 13 htx
      (rfl : txFctrlConfigMask &&& txFctrlTxbrMask = _)
    rw [hchan, htune2, hsfdTO, hphrMode, hprf, hplen, hdataRate]
  obtain ⟨t, ht, hwrites⟩ := hconf.tuned
  refine ⟨hofRegisters.trans hconf.ofRegisters, ⟨t, ht, fun w hw => ?_⟩,
    hrate.trans hconf.rxm110k, htx.trans hconf.txFctrl, hl.trans hconf.txFCTRL⟩
  rw [peek_tuning htuning (rfWrites_mem hw)]
  exact hwrites w hw

theorem Configured.congr (hconf : Configured config l mem)
    (h : ∀ b, Covers deviceRanges b → mem' b = mem b) : Configured config l mem' := by
  have hword {a : RegAddr} (ha : (a, 4) ∈ deviceRanges) : mem'.word32 a = mem.word32 a :=
    congrArg (assemble 32) (peek_congr fun i hi => h _ (Covers.of_mem ha hi))
  have hsysCfg : mem'.word32 ⟨sysCfgId, 0⟩ = mem.word32 ⟨sysCfgId, 0⟩ := hword (by decide)
  have htxFctrl : mem'.word32 ⟨txFctrlId, 0⟩ = mem.word32 ⟨txFctrlId, 0⟩ := hword (by decide)
  exact hconf.keep (fun b hb => h b (hb.mono tuningRanges_device)) (by rw [hsysCfg])
    (by rw [hsysCfg]) (by rw [htxFctrl]) rfl

/-! A configuration is set. -/

theorem DwtConfig.Valid.withSfdTimeout (h : config.Valid) : config.withSfdTimeout.Valid := by
  obtain ⟨sfdTO, hsfdTO⟩ := withSfdTimeout_eq config
  rw [hsfdTO]
  exact ⟨h.dataRate, h.rxPAC, h.chan, h.txCode, h.rxCode, h.txPreambLength, h.phrMode, h.nsSFD⟩

theorem word32_of_peek {a : RegAddr} {w : Word32}
    (h : mem.peek a (leBytes 4 w).length = leBytes 4 w) : mem.word32 a = w := by
  rw [leBytes_length] at h
  rw [word32, h]
  exact assemble_leBytes_self w (by decide)

theorem word16_of_peek {a : RegAddr} {w : Word16}
    (h : mem.peek a (leBytes 2 w).length = leBytes 2 w) : mem.word16 a = w := by
  rw [leBytes_length] at h
  rw [word16, h]
  exact assemble_leBytes_self w (by decide)

theorem dwtConfigure_configured (valid : config.Valid) (l : DwtLocalData) (mem : RegisterFile) :
    Configured config.withSfdTimeout ((dwtConfigure config l).run memory mem).1.2
      ((dwtConfigure config l).run memory mem).2 := by
  have valid' := valid.withSfdTimeout
  have hpeek {w : RegAddr × List Byte} (hw : w ∈ configWrites config l.sysCFGreg) :=
    dwtConfigure_peek config l mem hw
  have hrf {w : RegAddr × List Byte} (hw : w ∈ config.withSfdTimeout.rfWrites config.entries) :
      w ∈ configWrites config l.sysCFGreg :=
    List.mem_cons_of_mem _ (List.mem_append_left _ hw)
  have hlocal : ((dwtConfigure config l).run memory mem).1.2.txFCTRL =
      txFctrlWord config.withSfdTimeout := by
    simp only [dwtConfigure, dwtConfigureRadio, BusProgram.run_bind, dwtConfigureRf_run,
      BusProgram.run_pure]
  generalize (dwtConfigure config l).run memory mem = run at hpeek hlocal ⊢
  have hsysCfg : run.2.word32 ⟨sysCfgId, 0⟩ = configuredSysCfg config l.sysCFGreg :=
    word32_of_peek (hpeek List.mem_cons_self)
  have hchanWrite : (⟨chanCtrlId, 0⟩, leBytes 4 (chanCtrlWord config.withSfdTimeout)) ∈
      config.withSfdTimeout.rfWrites config.entries := by simp [DwtConfig.rfWrites]
  have htune2Write : (⟨drxConfId, drxTune2Offset⟩, leBytes 4 config.entries.tune2) ∈
      config.withSfdTimeout.rfWrites config.entries := by simp [DwtConfig.rfWrites]
  have hsfdTOWrite : (⟨drxConfId, drxSfdtocOffset⟩, leBytes 2 config.withSfdTimeout.sfdTO) ∈
      config.withSfdTimeout.rfWrites config.entries := by simp [DwtConfig.rfWrites]
  have htxWrite : (⟨txFctrlId, 0⟩, leBytes 4 (txFctrlWord config)) ∈
      configWrites config l.sysCFGreg := by simp [configWrites]
  have hchan := word32_of_peek (hpeek (hrf hchanWrite))
  have htune2 := word32_of_peek (hpeek (hrf htune2Write))
  have hsfdTO := word16_of_peek (hpeek (hrf hsfdTOWrite))
  have htx := word32_of_peek (hpeek htxWrite)
  have hphr : run.2.word32 ⟨sysCfgId, 0⟩ &&& sysCfgPhrMode11 =
      (config.phrMode.setWidth 32 <<< 16) &&& sysCfgPhrMode11 := by
    rw [hsysCfg]
    exact configuredSysCfg_fields valid l.sysCFGreg .phrMode11
  have hrate : run.2.word32 ⟨sysCfgId, 0⟩ &&& sysCfgRxm110k =
      if config.dataRate = dwtBr110k then sysCfgRxm110k else 0 := by
    rw [hsysCfg]
    exact configuredSysCfg_fields valid l.sysCFGreg .rxm110k
  have htuning := valid'.tuning
  -- the time-out is the one field that may differ from what was asked for
  obtain ⟨sfdTO, heq⟩ := withSfdTimeout_eq config
  rw [heq] at valid' hchan hsfdTO hlocal hrf htuning ⊢
  exact ⟨valid'.ofRegisters_eq hchan (congrArg (· &&& txFctrlConfigMask) htx) htune2 hsfdTO hphr,
    ⟨_, htuning, fun w hw => hpeek (hrf hw)⟩, hrate,
    congrArg (· &&& txFctrlConfigMask) htx, hlocal⟩

/-! The other calls. -/

theorem settingRanges_clear : ∀ f ∈ settingRanges, Clear tuningRanges f.1 f.2 ∧
    Clear [(⟨txFctrlId, 0⟩, 4)] f.1 f.2 := by
  decide

theorem transceiverRanges_clear : ∀ f ∈ transceiverRanges, Clear tuningRanges f.1 f.2 ∧
    Clear [(⟨txFctrlId, 0⟩, 4)] f.1 f.2 := by
  decide

theorem txFctrl_clear : Clear tuningRanges ⟨txFctrlId, 0⟩ 4 := by
  decide

theorem ApiCall.footprint_clear {c : ApiCall} (h : c.configures = none) :
    ∀ f ∈ c.footprint, Clear tuningRanges f.1 f.2 := by
  cases c with
  | configure config valid => cases h
  | writetxfctrl txFrameLength txBufferOffset ranging =>
      intro f hf
      rw [List.mem_singleton.mp hf]
      exact txFctrl_clear
  | _ =>
      first
      | exact fun f hf => (transceiverRanges_clear f hf).1
      | exact fun f hf => (settingRanges_clear f hf).1

section Chip

variable {δ : Type} {dev : Device RegAddr Byte δ} {registers : δ → RegisterFile}

theorem ApiCall.txFCTRL_kept {c : ApiCall} (h : c.configures = none) (l : DwtLocalData) (d : δ) :
    ((c.program l).run dev d).1.txFCTRL = l.txFCTRL := by
  cases hidle : c.idle with
  | true => exact ((c.idle_returns hidle l).run dev d).2.2.2
  | false =>
      have hreturns : (c.program l).Returns fun l' => l'.txFCTRL = l.txFCTRL := by
        cases c with
        | configure config valid => cases h
        | setrxaftertxdelay rxDelayTime => exact fun _ _ => rfl
        | enableframefilter enable => exact fun _ _ => rfl
        | setsmarttxpower enable => exact fun _ _ => rfl
        | setdblrxbuffmode enable => cases enable <;> rfl
        | setrxtimeout time =>
            intro _ _
            apply BusProgram.returns_bind (BusProgram.returns_any _)
            intro temp _
            split <;> rfl
        | _ => first | exact (rfl : l.txFCTRL = l.txFCTRL) | cases hidle
      exact hreturns.run dev d

/-- What `dwt_writetxfctrl` adds stands beside the configuration. -/
theorem writetxfctrl_and {txFrameLength txBufferOffset : Word16} {ranging : Word32}
    (hlength : txFrameLength ≤ 1023) (hflag : ranging ≤ 1) (reg : Word32) :
    (reg ||| txFrameLength.setWidth 32 ||| (txBufferOffset.setWidth 32 <<< txFctrlTxboffsShft) |||
      (ranging <<< txFctrlTrShft)) &&& txFctrlConfigMask = reg &&& txFctrlConfigMask := by
  have hlengthApart : txFrameLength.setWidth 32 &&& txFctrlConfigMask = 0 := by
    apply and_eq_zero_of_lt 10
    · rw [BitVec.toNat_setWidth]
      exact Nat.lt_of_le_of_lt (Nat.mod_le _ _) (Nat.lt_succ_of_le hlength)
    · decide
  have hoffsetApart : txBufferOffset.setWidth 32 <<< txFctrlTxboffsShft &&& txFctrlConfigMask = 0 :=
    shiftLeft_and_eq_zero rfl _
  have hflagApart : ranging <<< txFctrlTrShft &&& txFctrlConfigMask = 0 := by
    have hnat : ranging.toNat ≤ 1 := hflag
    have hcases : ranging = 0 ∨ ranging = 1 := by
      rcases Nat.le_one_iff_eq_zero_or_eq_one.mp hnat with hzero | hone
      · exact .inl (BitVec.eq_of_toNat_eq hzero)
      · exact .inr (BitVec.eq_of_toNat_eq hone)
    rcases hcases with rfl | rfl <;> rfl
  rw [BitVec.or_comm, or_and_of_clear hflagApart, BitVec.or_comm, or_and_of_clear hoffsetApart,
    BitVec.or_comm, or_and_of_clear hlengthApart]

theorem txFctrl_covered {i : Nat} (hi : i < 4) :
    Covers [(⟨txFctrlId, 0⟩, 4)] ((⟨txFctrlId, 0⟩ : RegAddr).offset i) :=
  Covers.of_mem List.mem_cons_self hi

theorem ApiCall.txFctrl_kept (h : Remembers dev registers (Covers deviceRanges) Quiet)
    {c : ApiCall} (hc : c.configures = none) (l : DwtLocalData) (d : δ)
    (hconf : Configured config l (registers d)) :
    (registers ((c.program l).run dev d).2).word32 ⟨txFctrlId, 0⟩ &&& txFctrlConfigMask =
      (registers d).word32 ⟨txFctrlId, 0⟩ &&& txFctrlConfigMask := by
  have hrest (hclear : ∀ f ∈ c.footprint, Clear [(⟨txFctrlId, 0⟩, 4)] f.1 f.2) :
      (registers ((c.program l).run dev d).2).word32 ⟨txFctrlId, 0⟩ &&& txFctrlConfigMask =
        (registers d).word32 ⟨txFctrlId, 0⟩ &&& txFctrlConfigMask := by
    have hkeeps := keeps_of_writesWithin (h.mono fun _ hb => hb.mono txFctrl_device)
      (c.writesWithin l) hclear d
    exact congrArg (assemble 32 · &&& txFctrlConfigMask)
      (peek_congr fun i hi => hkeeps _ (txFctrl_covered hi))
  cases c with
  | configure config valid => cases hc
  | writetxfctrl txFrameLength txBufferOffset ranging hlength hflag =>
      let reg := l.txFCTRL ||| txFrameLength.setWidth 32 |||
        (txBufferOffset.setWidth 32 <<< txFctrlTxboffsShft) ||| (ranging <<< txFctrlTrShft)
      have hwritten (i : Nat) (hi : i < 4) := h.write d ⟨txFctrlId, 0⟩ (leBytes 4 reg) _
        (quiet_of_ne (by decide)) ((txFctrl_covered hi).mono txFctrl_device)
      have hword : (registers (dev.write d ⟨txFctrlId, 0⟩ (leBytes 4 reg))).word32 ⟨txFctrlId, 0⟩ =
          reg :=
        (congrArg (assemble 32) (peek_congr hwritten)).trans (word32_poke _ _ _)
      refine (congrArg (· &&& txFctrlConfigMask) hword).trans ?_
      rw [writetxfctrl_and hlength hflag, hconf.txFCTRL, hconf.txFctrl]
  | _ =>
      first
      | exact hrest fun f hf => (transceiverRanges_clear f hf).2
      | exact hrest fun f hf => (settingRanges_clear f hf).2

/-- One call. -/
theorem ApiCall.configured (h : Remembers dev registers (Covers deviceRanges) Quiet) (c : ApiCall)
    {l : DwtLocalData} {d : δ} {last : Option DwtConfig} (hco : Coherent l (registers d))
    (hlast : ∀ config ∈ last, Configured config l (registers d)) :
    ∀ config ∈ c.configures.or last, Configured config ((c.program l).run dev d).1
      (registers ((c.program l).run dev d).2) := by
  intro config hconfig
  have hsettings : Remembers dev registers (Covers settingRanges) Quiet :=
    h.mono fun _ hb => hb.mono settingRanges_device
  cases hc : c.configures with
  | some set =>
      rw [hc] at hconfig
      cases c with
      | configure asked valid =>
          have hconfig' : config = asked.withSfdTimeout :=
            (Option.some.inj (hc.trans hconfig)).symm
          have htouches := ((ApiCall.configure asked valid).touches rfl l).mono
            (fun a n hread i hi => (hread i hi).mono settingRanges_device) fun a bytes hw => hw.1
          obtain ⟨hresult, hregion⟩ :=
            h.run_memory htouches fun b _ => (rfl : registers d b = registers d b)
          rw [hresult, hconfig']
          refine Configured.congr ?_ hregion
          rw [ApiCall.program, BusProgram.run_map]
          exact dwtConfigure_configured valid l (registers d)
      | _ => cases hc
  | none =>
      rw [hc] at hconfig
      have hconf := hlast config hconfig
      obtain ⟨_, hvalue⟩ := c.performs hsettings l d hco
      have hunset (field : SysCfgField) (hfield : field = .phrMode11 ∨ field = .rxm110k) :
          (registers ((c.program l).run dev d).2).word32 ⟨sysCfgId, 0⟩ &&& field.mask =
            (registers d).word32 ⟨sysCfgId, 0⟩ &&& field.mask := by
        have hsets : c.sets (.sysCfg field) = none := by
          cases c with
          | configure config valid => cases hc
          | _ => rcases hfield with rfl | rfl <;> rfl
        exact (hvalue (.sysCfg field)).trans (by rw [hsets]; rfl)
      refine hconf.keep ?_ (hunset _ (.inl rfl)) (hunset _ (.inr rfl))
        (c.txFctrl_kept h hc l d hconf) (c.txFCTRL_kept hc l d)
      exact keeps_of_writesWithin (h.mono fun _ hb => hb.mono tuningRanges_device)
        (c.writesWithin l) (ApiCall.footprint_clear hc) d

/-- One call. -/
theorem ApiCall.meets (h : Remembers dev registers (Covers deviceRanges) Quiet) (c : ApiCall)
    {l : DwtLocalData} {d : δ} {e : Expected} (hmeets : Meets e l (registers d)) :
    Meets (e.call c) ((c.program l).run dev d).1 (registers ((c.program l).run dev d).2) := by
  obtain ⟨hco, hvalue⟩ :=
    c.performs (h.mono fun _ hb => hb.mono settingRanges_device) l d hmeets.coherent
  refine ⟨hco, c.configured h hmeets.coherent hmeets.configured, fun f v hv => ?_⟩
  rw [hvalue]
  change v ∈ (c.sets f).or (e.settings f) at hv
  cases hsets : c.sets f with
  | some set =>
      rw [hsets] at hv
      exact Option.some.inj hv
  | none =>
      rw [hsets] at hv
      exact hmeets.settings f v hv

/-- A run of calls. -/
theorem runCalls_meets (h : Remembers dev registers (Covers deviceRanges) Quiet)
    (cs : List ApiCall) {l : DwtLocalData} {d : δ} {e : Expected}
    (hmeets : Meets e l (registers d)) :
    Meets (cs.foldl Expected.call e) ((runCalls l cs).run dev d).1
      (registers ((runCalls l cs).run dev d).2) := by
  induction cs generalizing l d e with
  | nil => exact hmeets
  | cons c cs ih =>
      simp only [runCalls, BusProgram.run_bind]
      exact ih (c.meets h hmeets)

/-- After any run of driver calls the registers state the last configuration that was set, with
every register that depends on it at the entries of the tables for it, on every chip that
remembers what is written there. -/
theorem runCalls_configured (h : Remembers dev registers (Covers deviceRanges) Quiet)
    (cs : List ApiCall) (l : DwtLocalData) (d : δ) (last : Option DwtConfig)
    (hco : Coherent l (registers d)) (hlast : ∀ config ∈ last, Configured config l (registers d)) :
    ∀ config ∈ lastConfig cs last, Configured config ((runCalls l cs).run dev d).1
      (registers ((runCalls l cs).run dev d).2) := by
  intro config hconfig
  have hstart : Meets ⟨last, fun _ => none⟩ l (registers d) :=
    ⟨hco, hlast, fun _ _ hv => nomatch hv⟩
  apply (runCalls_meets h cs hstart).configured
  rwa [foldl_call_config]

end Chip

/-- `config` of `uwb_bread.c`. -/
def breadcrumbConfig : DwtConfig where
  chan := 5
  prf := dwtPrf64m
  txPreambLength := dwtPlen128
  rxPAC := dwtPac8
  txCode := 10
  rxCode := 10
  nsSFD := 0
  dataRate := dwtBr6m8
  phrMode := dwtPhrmodeStd
  sfdTO := 129 + 8 - 8

theorem breadcrumbConfig_valid : breadcrumbConfig.Valid where
  dataRate := by decide
  rxPAC := by decide
  chan := by decide
  txCode := by decide
  rxCode := by decide
  txPreambLength := by decide
  phrMode := by decide
  nsSFD := by decide

/-- A poll sent with it. -/
theorem runCalls_configured_poll :
    DwtConfig.ofRegisters ((runCalls singleBufferedData [.configure breadcrumbConfig
      breadcrumbConfig_valid, .setrxtimeout 65000, .writetxfctrl 12 0 1 (by decide) (by decide),
        .starttx dwtResponseExpected]).run memory singleBuffered).2 = breadcrumbConfig := by
  have hco : Coherent singleBufferedData singleBuffered :=
    ⟨word32_poke _ _ _, iff_of_false (not_not_intro rfl) (by decide), by decide⟩
  have hrun := runCalls_configured (memory_remembers (Covers deviceRanges) Quiet)
    [.configure breadcrumbConfig breadcrumbConfig_valid, .setrxtimeout 65000,
      .writetxfctrl 12 0 1 (by decide) (by decide), .starttx dwtResponseExpected]
    singleBufferedData singleBuffered none hco (fun _ h => nomatch h) breadcrumbConfig rfl
  exact hrun.ofRegisters

end Breadcrumb.Driver
