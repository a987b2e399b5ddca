import Breadcrumb.Machine.BitFields
import Breadcrumb.Driver.DecaDevice

/-!
What `dwt_configure` leaves behind. The configuration can be read back from the
registers, and the registers that depend on it hold entries of the tables that
are there.
-/

namespace Breadcrumb.Driver

open Breadcrumb.Machine Breadcrumb.Machine.RegisterFile
open Breadcrumb.Uwb (sysCtrlId txFctrlId)

/-- The entries of the tables that a configuration selects. -/
structure Tuning where
  replicaCoeff : Word16
  pllCfg : Word32
  pllTune : Byte
  rxCtrlh : Byte
  txCtrl : Word32
  tune0b : Word16
  tune1a : Word16
  tune2 : Word32
  agcTarget : Word16
  sfdLength : Byte

/-- The entries, with every index checked. -/
def DwtConfig.tuning (config : DwtConfig) : Option Tuning := do
  let prfIndex := (config.prf - dwtPrf16m).toNat
  let chan ← chanIdx[config.chan.toNat]?
  let replicaCoeff ← ldeReplicaCoeff[config.rxCode.toNat]?
  let pllCfg ← fsPllCfg[chan]?
  let pllTune ← fsPllTune[chan]?
  let rxCtrlh ← rxConfig[if config.chan = 4 ∨ config.chan = 7 then 1 else 0]?
  let txCtrl ← txConfig[chan]?
  let thresholds ← sftsh[config.dataRate.toNat]?
  let tune0b ← thresholds[config.nsSFD.toNat]?
  let tune1a ← dtune1[prfIndex]?
  let basebands ← digitalBbConfig[prfIndex]?
  let tune2 ← basebands[config.rxPAC.toNat]?
  let agcTarget ← agcConfigTarget[prfIndex]?
  let sfdLength ← dwnsSFDlen[config.dataRate.toNat]?
  pure ⟨replicaCoeff, pllCfg, pllTune, rxCtrlh, txCtrl, tune0b, tune1a, tune2, agcTarget, sfdLength⟩

/-- The entries, as the source finds them. -/
def DwtConfig.entries (config : DwtConfig) : Tuning where
  replicaCoeff := ldeReplicaCoeff.getD config.rxCode.toNat 0
  pllCfg := fsPllCfg.getD (chanIdx.getD config.chan.toNat 0) 0
  pllTune := fsPllTune.getD (chanIdx.getD config.chan.toNat 0) 0
  rxCtrlh := rxConfig.getD (if config.chan = 4 ∨ config.chan = 7 then 1 else 0) 0
  txCtrl := txConfig.getD (chanIdx.getD config.chan.toNat 0) 0
  tune0b := lookup2 sftsh config.dataRate.toNat config.nsSFD.toNat 0
  tune1a := dtune1.getD (config.prf - dwtPrf16m).toNat 0
  tune2 := lookup2 digitalBbConfig (config.prf - dwtPrf16m).toNat config.rxPAC.toNat 0
  agcTarget := agcConfigTarget.getD (config.prf - dwtPrf16m).toNat 0
  sfdLength := dwnsSFDlen.getD config.dataRate.toNat 0

theorem DwtConfig.Valid.prf {config : DwtConfig} (h : config.Valid) :
    config.prf = dwtPrf16m ∨ config.prf = dwtPrf64m := by
  rcases h.rxCode with ⟨hprf, _⟩ | ⟨hprf, _⟩
  · exact .inr hprf
  · exact .inl hprf

/-- The codes of either frequency fit their fields, and the table. -/
theorem code_lt {prf code : Byte} (h : (prf = dwtPrf64m ∧ 9 ≤ code ∧ code ≤ 24) ∨
    (prf = dwtPrf16m ∧ 1 ≤ code ∧ code ≤ 8)) : code.toNat < 25 := by
  rcases h with ⟨_, _, h⟩ | ⟨_, _, h⟩
  · exact Nat.lt_succ_of_le h
  · exact Nat.lt_of_le_of_lt h (by decide)

theorem getElem?_eq_getD {α : Type} {table : List α} {i : Nat} (h : i < table.length) (d : α) :
    table[i]? = some (table.getD i d) := by
  rw [List.getD_eq_getElem _ _ h, List.getElem?_eq_getElem h]

theorem chanIdx_lt {i : Nat} (h : i < 8) : chanIdx.getD i 0 < 6 := by
  revert i
  decide

/-- No table is read past its end. -/
theorem DwtConfig.Valid.tuning {config : DwtConfig} (h : config.Valid) :
    config.tuning = some config.entries := by
  have hchan : config.chan.toNat < 8 := Nat.lt_succ_of_le h.chan.2.1
  have hidx := chanIdx_lt hchan
  have hrate : config.dataRate.toNat < 3 := Nat.lt_succ_of_le h.dataRate
  have hpac : config.rxPAC.toNat < 4 := Nat.lt_succ_of_le h.rxPAC
  have hsfd : config.nsSFD.toNat < 2 := Nat.lt_succ_of_le h.nsSFD
  have hprf : (config.prf - dwtPrf16m).toNat < 2 := by
    rcases h.prf with hprf | hprf <;> rw [hprf] <;> decide
  have hbw : (if config.chan = 4 ∨ config.chan = 7 then 1 else 0) < rxConfig.length := by
    split <;> decide
  have hthresholds : config.nsSFD.toNat < (sftsh.getD config.dataRate.toNat []).length := by
    have hrow : ∀ i < 3, (sftsh.getD i []).length = 2 := by decide
    rwa [hrow _ hrate]
  have hbasebands : config.rxPAC.toNat <
      (digitalBbConfig.getD (config.prf - dwtPrf16m).toNat []).length := by
    have hrow : ∀ i < 2, (digitalBbConfig.getD i []).length = 4 := by decide
    rwa [hrow _ hprf]
  unfold DwtConfig.tuning DwtConfig.entries lookup2
  dsimp only
  rw [getElem?_eq_getD (show _ < chanIdx.length from hchan) 0,
    getElem?_eq_getD (show _ < ldeReplicaCoeff.length from code_lt h.rxCode) 0,
    getElem?_eq_getD hbw 0, getElem?_eq_getD (show _ < sftsh.length from hrate) [],
    getElem?_eq_getD (show _ < dtune1.length from hprf) 0,
    getElem?_eq_getD (show _ < digitalBbConfig.length from hprf) [],
    getElem?_eq_getD (show _ < agcConfigTarget.length from hprf) 0,
    getElem?_eq_getD (show _ < dwnsSFDlen.length from hrate) 0]
  simp only [Option.bind_eq_bind, Option.bind_some]
  rw [getElem?_eq_getD (show _ < fsPllCfg.length from hidx) 0,
    getElem?_eq_getD (show _ < fsPllTune.length from hidx) 0,
    getElem?_eq_getD (show _ < txConfig.length from hidx) 0, getElem?_eq_getD hthresholds 0,
    getElem?_eq_getD hbasebands 0]
  rfl

def DwtConfig.tune1bWrites (config : DwtConfig) : List (RegAddr × List Byte) :=
  if config.dataRate = dwtBr110k then [(⟨drxConfId, drxTune1bOffset⟩, leBytes 2 drxTune1b110k)]
  else if config.txPreambLength = dwtPlen64 then
    [(⟨drxConfId, drxTune1bOffset⟩, leBytes 2 drxTune1b6m8Pre64),
      (⟨drxConfId, drxTune4hOffset⟩, [drxTune4hPre64])]
  else
    [(⟨drxConfId, drxTune1bOffset⟩, leBytes 2 drxTune1b850k6m8),
      (⟨drxConfId, drxTune4hOffset⟩, [drxTune4hPre128plus])]

/-- The writes that set the radio up for a configuration. -/
def DwtConfig.rfWrites (config : DwtConfig) (t : Tuning) : List (RegAddr × List Byte) :=
  [(⟨ldeIfId, ldeRepcOffset⟩, leBytes 2
      (if config.dataRate = dwtBr110k then t.replicaCoeff >>> 3 else t.replicaCoeff)),
    (⟨ldeIfId, ldeCfg1Offset⟩, [ldeParam1]),
    (⟨ldeIfId, ldeCfg2Offset⟩, leBytes 2
      (if config.prf - dwtPrf16m ≠ 0 then ldeParam364 else ldeParam316)),
    (⟨fsCtrlId, fsPllcfgOffset⟩, leBytes 4 t.pllCfg),
    (⟨fsCtrlId, fsPlltuneOffset⟩, [t.pllTune]),
    (⟨rfConfId, rfRxctrlhOffset⟩, [t.rxCtrlh]),
    (⟨rfConfId, rfTxctrlOffset⟩, leBytes 4 t.txCtrl),
    (⟨drxConfId, drxTune0bOffset⟩, leBytes 2 t.tune0b),
    (⟨drxConfId, drxTune1aOffset⟩, leBytes 2 t.tune1a)] ++
  config.tune1bWrites ++
  [(⟨drxConfId, drxTune2Offset⟩, leBytes 4 t.tune2),
    (⟨drxConfId, drxSfdtocOffset⟩, leBytes 2 config.sfdTO),
    (⟨agcCfgStsId, 0xC⟩, leBytes 4 agcConfigLo32),
    (⟨agcCfgStsId, 0x4⟩, leBytes 2 t.agcTarget)] ++
  (if config.nsSFD ≠ 0 then [(⟨usrSfdId, 0x00⟩, [t.sfdLength])] else []) ++
  [(⟨chanCtrlId, 0⟩, leBytes 4 (chanCtrlWord config))]

/-- Where they stand. -/
def tuningRanges : List (RegAddr × Nat) :=
  [(⟨ldeIfId, ldeRepcOffset⟩, 2), (⟨ldeIfId, ldeCfg1Offset⟩, 1), (⟨ldeIfId, ldeCfg2Offset⟩, 2),
    (⟨fsCtrlId, fsPllcfgOffset⟩, 4), (⟨fsCtrlId, fsPlltuneOffset⟩, 1),
    (⟨rfConfId, rfRxctrlhOffset⟩, 1), (⟨rfConfId, rfTxctrlOffset⟩, 4),
    (⟨drxConfId, drxTune0bOffset⟩, 2), (⟨drxConfId, drxTune1aOffset⟩, 2),
    (⟨drxConfId, drxTune1bOffset⟩, 2), (⟨drxConfId, drxTune4hOffset⟩, 1),
    (⟨drxConfId, drxTune2Offset⟩, 4), (⟨drxConfId, drxSfdtocOffset⟩, 2), (⟨agcCfgStsId, 0xC⟩, 4),
    (⟨agcCfgStsId, 0x4⟩, 2), (⟨usrSfdId, 0x00⟩, 1), (⟨chanCtrlId, 0⟩, 4)]

/-- All that `dwt_configure` writes. -/
def configRanges : List (RegAddr × Nat) :=
  (⟨sysCfgId, 0⟩, 4) :: (tuningRanges ++ [(⟨txFctrlId, 0⟩, 4), (⟨sysCtrlId, 0⟩, 1)])

theorem configRanges_apart :
    configRanges.Pairwise fun r r' => Apart r.1 r.2 r'.1 r'.2 := by
  decide

theorem rfWrites_ranges (config : DwtConfig) (t : Tuning) :
    ((config.rfWrites t).map fun w => (w.1, w.2.length)).Sublist tuningRanges := by
  unfold DwtConfig.rfWrites DwtConfig.tune1bWrites
  by_cases hrate : config.dataRate = dwtBr110k <;>
    by_cases hplen : config.txPreambLength = dwtPlen64 <;>
    by_cases hsfd : config.nsSFD = 0 <;>
    simp only [hrate, hplen, hsfd, ne_eq, not_true_eq_false, not_false_eq_true, if_true, if_false,
      List.map_cons, List.map_nil, leBytes_length, List.length_cons,
      List.length_nil, List.cons_append, List.nil_append] <;>
    decide

section Writes

variable {δ : Type} (dev : Device RegAddr Byte δ)

theorem dwtConfigureRf_run (config : DwtConfig) (d : δ) :
    ((dwtConfigureRf config).run dev d).1 = config.withSfdTimeout := by
  unfold dwtConfigureRf
  simp only [BusProgram.run_bind]
  split <;> rfl

theorem dwtConfigureTune1b_writesOf (config : DwtConfig) (d : δ) :
    (dwtConfigureTune1b config).writes dev d = config.tune1bWrites := by
  unfold dwtConfigureTune1b DwtConfig.tune1bWrites
  split
  · rfl
  · split <;> rfl

theorem withSfdTimeout_eq (config : DwtConfig) :
    ∃ sfdTO, config.withSfdTimeout = { config with sfdTO := sfdTO } := by
  unfold DwtConfig.withSfdTimeout
  split
  · exact ⟨_, rfl⟩
  · exact ⟨config.sfdTO, rfl⟩

/-- The program makes these writes and no others. -/
theorem dwtConfigureRf_writesOf (config : DwtConfig) (d : δ) :
    (dwtConfigureRf config).writes dev d = config.withSfdTimeout.rfWrites config.entries := by
  obtain ⟨sfdTO, hsfdTO⟩ := withSfdTimeout_eq config
  simp only [dwtConfigureRf, hsfdTO, BusProgram.writes_bind, dwtConfigureTune1b_writesOf,
    DwtConfig.rfWrites, List.append_assoc]
  by_cases hsfd : config.nsSFD = 0
  · simp only [if_neg (not_not_intro hsfd)]
    rfl
  · simp only [if_pos hsfd]
    rfl

/-- All writes of `dwt_configure`. -/
def configWrites (config : DwtConfig) (sysCFGreg : Word32) : List (RegAddr × List Byte) :=
  (⟨sysCfgId, 0⟩, leBytes 4 (configuredSysCfg config sysCFGreg)) ::
    (config.withSfdTimeout.rfWrites config.entries ++
      [(⟨txFctrlId, 0⟩, leBytes 4 (txFctrlWord config)),
        (⟨sysCtrlId, 0⟩, [sysCtrlTxstrt ||| sysCtrlTrxoff])])

theorem dwtConfigure_writes (config : DwtConfig) (l : DwtLocalData) (d : δ) :
    (dwtConfigure config l).writes dev d = configWrites config l.sysCFGreg := by
  unfold dwtConfigure dwtConfigureRadio
  simp only [BusProgram.writes_bind, dwtConfigureRf_writesOf, dwtConfigureRf_run]
  have hword : txFctrlWord config.withSfdTimeout = txFctrlWord config := by
    unfold DwtConfig.withSfdTimeout
    split <;> rfl
  rw [hword]
  rfl

theorem configWrites_apart (config : DwtConfig) (sysCFGreg : Word32) :
    (configWrites config sysCFGreg).Pairwise fun w w' =>
      Apart w.1 w.2.length w'.1 w'.2.length := by
  have hranges : ((configWrites config sysCFGreg).map fun w => (w.1, w.2.length)).Sublist
      configRanges := by
    have hrf := rfWrites_ranges config.withSfdTimeout config.entries
    unfold configWrites configRanges
    rw [List.map_cons, List.map_append]
    exact (hrf.append (List.Sublist.refl _)).cons_cons _
  exact List.pairwise_map.mp (configRanges_apart.sublist hranges)

/-- On memory every register that is written holds what it is to hold. -/
theorem dwtConfigure_peek (config : DwtConfig) (l : DwtLocalData) (mem : RegisterFile)
    {w : RegAddr × List Byte} (hw : w ∈ configWrites config l.sysCFGreg) :
    (((dwtConfigure config l).run memory mem).2).peek w.1 w.2.length = w.2 := by
  rw [run_memory_eq_pokes, dwtConfigure_writes]
  exact peek_pokes (configWrites_apart config l.sysCFGreg) hw

end Writes

/-! The configuration in the registers. -/

/-- The configuration that the registers state. -/
def DwtConfig.ofRegisters (mem : RegisterFile) : DwtConfig :=
  let chanCtrl := mem.word32 ⟨chanCtrlId, 0⟩
  let txFctrl := mem.word32 ⟨txFctrlId, 0⟩
  let prf := readField 8 txFctrl txFctrlTxprfMask 16
  { chan := readField 8 chanCtrl chanCtrlTxChanMask 0
    prf := prf
    txPreambLength := readField 8 txFctrl txFctrlTxpsrPeMask 16
    rxPAC := BitVec.ofNat 8 ((digitalBbConfig.getD (prf - dwtPrf16m).toNat []).idxOf
      (mem.word32 ⟨drxConfId, drxTune2Offset⟩))
    txCode := readField 8 chanCtrl chanCtrlTxPcodMask 22
    rxCode := readField 8 chanCtrl chanCtrlRxPcodMask 27
    nsSFD := readField 8 chanCtrl chanCtrlDwsfd 17
    dataRate := readField 8 txFctrl txFctrlTxbrMask 13
    phrMode := readField 8 (mem.word32 ⟨sysCfgId, 0⟩) sysCfgPhrMode11 16
    sfdTO := mem.word16 ⟨drxConfId, drxSfdtocOffset⟩ }

/-- The fields of CHAN_CTRL. -/
def chanCtrlFields (config : DwtConfig) : List (Word32 × Word32) :=
  let nsSfdResult : Word32 := if config.nsSFD ≠ 0 then 3 else 0
  let useDWnsSFD : Word32 := if config.nsSFD ≠ 0 then 1 else 0
  [(chanCtrlTxChanMask, config.chan.setWidth 32),
    (chanCtrlRxChanMask, config.chan.setWidth 32 <<< 4),
    (chanCtrlRxfprfMask, config.prf.setWidth 32 <<< 18),
    (chanCtrlTnssfd ||| chanCtrlRnssfd, nsSfdResult <<< 20),
    (chanCtrlDwsfd, useDWnsSFD <<< 17),
    (chanCtrlTxPcodMask, config.txCode.setWidth 32 <<< 22),
    (chanCtrlRxPcodMask, config.rxCode.setWidth 32 <<< 27)]

theorem chanCtrlWord_eq_pack (config : DwtConfig) :
    chanCtrlWord config = pack (chanCtrlFields config) := by
  simp only [chanCtrlWord, chanCtrlFields, pack, List.foldl_cons, List.foldl_nil]
  rw [show (0 : Word32) ||| (chanCtrlTxChanMask &&& config.chan.setWidth 32) = _ from
    BitVec.zero_or]

theorem chanCtrlFields_apart (config : DwtConfig) :
    (chanCtrlFields config).Pairwise fun f g => f.1 &&& g.1 = 0 := by
  have hmasks : ((chanCtrlFields config).map Prod.fst).Pairwise fun f g => f &&& g = 0 := by
    change List.Pairwise _ [chanCtrlTxChanMask, chanCtrlRxChanMask, chanCtrlRxfprfMask,
      chanCtrlTnssfd ||| chanCtrlRnssfd, chanCtrlDwsfd, chanCtrlTxPcodMask, chanCtrlRxPcodMask]
    decide
  exact List.pairwise_map.mp hmasks

/-- The field under a mask of CHAN_CTRL. -/
theorem chanCtrl_and {config : DwtConfig} {f : Word32 × Word32} (hf : f ∈ chanCtrlFields config) :
    chanCtrlWord config &&& f.1 = f.2 &&& f.1 := by
  rw [chanCtrlWord_eq_pack]
  exact pack_and (chanCtrlFields_apart config) hf

/-- What of TX_FCTRL the configuration is read from. -/
def txFctrlConfigMask : Word32 := 0x003F6000

theorem preamble_fits {plen : Byte} (h : plen ∈ [dwtPlen64, dwtPlen128, dwtPlen256, dwtPlen512,
    dwtPlen1024, dwtPlen1536, dwtPlen2048, dwtPlen4096]) :
    plen.setWidth 32 <<< 16 &&& txFctrlTxpsrPeMask = plen.setWidth 32 <<< 16 := by
  revert plen
  decide

section Valid

variable {config : DwtConfig}

theorem DwtConfig.Valid.prf_fits (h : config.Valid) :
    config.prf.setWidth 32 <<< 16 &&& txFctrlTxprfMask = config.prf.setWidth 32 <<< 16 := by
  rcases h.prf with hprf | hprf <;> rw [hprf] <;> rfl

theorem DwtConfig.Valid.dataRate_fits (h : config.Valid) :
    config.dataRate.setWidth 32 <<< 13 &&& txFctrlTxbrMask = config.dataRate.setWidth 32 <<< 13 :=
  field_fits 2 (Nat.lt_of_le_of_lt h.dataRate (by decide)) (by decide)

def txFctrlFields (config : DwtConfig) : List (Word32 × Word32) :=
  [(txFctrlTxpsrPeMask, config.txPreambLength.setWidth 32 <<< 16),
    (txFctrlTxprfMask, config.prf.setWidth 32 <<< 16),
    (txFctrlTxbrMask, config.dataRate.setWidth 32 <<< 13)]

/-- The preamble and the frequency share a byte, but no bit of it. -/
theorem txFctrlWord_eq_pack (h : config.Valid) :
    txFctrlWord config = pack (txFctrlFields config) := by
  have hplen := preamble_fits h.txPreambLength
  have hprf := h.prf_fits
  have hrate := h.dataRate_fits
  simp only [txFctrlWord, txFctrlFields, pack, List.foldl_cons, List.foldl_nil]
  rw [BitVec.and_comm txFctrlTxpsrPeMask, BitVec.and_comm txFctrlTxprfMask,
    BitVec.and_comm txFctrlTxbrMask, hplen, hprf, hrate, BitVec.setWidth_or,
    BitVec.shiftLeft_or_distrib]
  rw [show (0 : Word32) ||| config.txPreambLength.setWidth 32 <<< 16 = _ from BitVec.zero_or]

theorem txFctrl_and (h : config.Valid) {f : Word32 × Word32} (hf : f ∈ txFctrlFields config) :
    txFctrlWord config &&& f.1 = f.2 &&& f.1 := by
  rw [txFctrlWord_eq_pack h]
  refine pack_and ?_ hf
  have hmasks : ((txFctrlFields config).map Prod.fst).Pairwise fun f g => f &&& g = 0 := by
    change List.Pairwise _ [txFctrlTxpsrPeMask, txFctrlTxprfMask, txFctrlTxbrMask]
    decide
  exact List.pairwise_map.mp hmasks

/-- A field of TX_FCTRL that the configuration is read from. -/
theorem readField_txFctrl (h : config.Valid) {reg mask : Word32} {shift : Nat} {x : Byte}
    (hreg : reg &&& txFctrlConfigMask = txFctrlWord config &&& txFctrlConfigMask)
    (hf : (mask, x.setWidth 32 <<< shift) ∈ txFctrlFields config)
    (hwithin : txFctrlConfigMask &&& mask = mask) (hroom : 8 + shift ≤ 32)
    (hfit : x.setWidth 32 <<< shift &&& mask = x.setWidth 32 <<< shift) :
    readField 8 reg mask shift = x := by
  refine readField_eq 8 x.isLt hroom hfit ?_
  rw [← txFctrl_and h hf, ← hwithin, ← BitVec.and_assoc, ← BitVec.and_assoc, hreg]

/-- A field of CHAN_CTRL. -/
theorem readField_chanCtrl {mask : Word32} {shift : Nat} {x : Byte} (k : Nat)
    (hf : (mask, x.setWidth 32 <<< shift) ∈ chanCtrlFields config) (hlt : x.toNat < 2 ^ k)
    (hroom : k + shift ≤ 32) (hmask : ∀ i < k, mask.getLsbD (shift + i) = true) :
    readField 8 (chanCtrlWord config) mask shift = x :=
  readField_eq k hlt hroom (field_fits k hlt hmask) (chanCtrl_and hf)

/-- The flag for the SFD stands as it is for a Boolean. -/
theorem DwtConfig.Valid.nsSFD_flag (h : config.Valid) :
    (if config.nsSFD ≠ 0 then 1 else 0 : Word32) = config.nsSFD.setWidth 32 := by
  have hcases : ∀ v : Byte, v ≤ 1 → v = 0 ∨ v = 1 := by
    intro v hv
    have hnat : v.toNat ≤ 1 := hv
    rcases Nat.le_one_iff_eq_zero_or_eq_one.mp hnat with hzero | hone
    · exact .inl (BitVec.eq_of_toNat_eq hzero)
    · exact .inr (BitVec.eq_of_toNat_eq hone)
  rcases hcases _ h.nsSFD with hflag | hflag <;> rw [hflag] <;> rfl

/-- Each baseband word stands for one acquisition chunk. -/
theorem DwtConfig.Valid.rxPAC_found (h : config.Valid) :
    BitVec.ofNat 8 ((digitalBbConfig.getD (config.prf - dwtPrf16m).toNat []).idxOf
      config.entries.tune2) = config.rxPAC := by
  have hfound : ∀ i < 2, ∀ j < 4, (digitalBbConfig.getD i []).idxOf
      ((digitalBbConfig.getD i []).getD j 0) = j := by decide
  have hprf : (config.prf - dwtPrf16m).toNat < 2 := by
    rcases h.prf with hprf | hprf <;> rw [hprf] <;> decide
  have hpac : config.rxPAC.toNat < 4 := Nat.lt_succ_of_le h.rxPAC
  refine (congrArg (BitVec.ofNat 8) (hfound _ hprf _ hpac)).trans ?_
  rw [BitVec.ofNat_toNat, BitVec.setWidth_eq]

/-- The registers that a configuration is read from determine it. -/
theorem DwtConfig.Valid.ofRegisters_eq (h : config.Valid) {mem : RegisterFile}
    (hchan : mem.word32 ⟨chanCtrlId, 0⟩ = chanCtrlWord config)
    (htx : mem.word32 ⟨txFctrlId, 0⟩ &&& txFctrlConfigMask =
      txFctrlWord config &&& txFctrlConfigMask)
    (htune2 : mem.word32 ⟨drxConfId, drxTune2Offset⟩ = config.entries.tune2)
    (hsfdTO : mem.word16 ⟨drxConfId, drxSfdtocOffset⟩ = config.sfdTO)
    (hphr : mem.word32 ⟨sysCfgId, 0⟩ &&& sysCfgPhrMode11 =
      (config.phrMode.setWidth 32 <<< 16) &&& sysCfgPhrMode11) :
    DwtConfig.ofRegisters mem = config := by
  have hprf : readField 8 (mem.word32 ⟨txFctrlId, 0⟩) txFctrlTxprfMask 16 = config.prf :=
    readField_txFctrl h htx (by simp [txFctrlFields]) rfl (by decide) h.prf_fits
  have hplen : readField 8 (mem.word32 ⟨txFctrlId, 0⟩) txFctrlTxpsrPeMask 16 =
      config.txPreambLength :=
    readField_txFctrl h htx (by simp [txFctrlFields]) rfl (by decide)
      (preamble_fits h.txPreambLength)
  have hrate : readField 8 (mem.word32 ⟨txFctrlId, 0⟩) txFctrlTxbrMask 13 = config.dataRate :=
    readField_txFctrl h htx (by simp [txFctrlFields]) rfl (by decide) h.dataRate_fits
  have hchannel : readField 8 (chanCtrlWord config) chanCtrlTxChanMask 0 = config.chan :=
    readField_chanCtrl 4 (by simp [chanCtrlFields])
      (Nat.lt_of_le_of_lt h.chan.2.1 (by decide)) (by decide) (by decide)
  have htxCode : readField 8 (chanCtrlWord config) chanCtrlTxPcodMask 22 = config.txCode :=
    readField_chanCtrl 5 (by simp [chanCtrlFields])
      (Nat.lt_trans (code_lt h.txCode) (by decide)) (by decide) (by decide)
  have hrxCode : readField 8 (chanCtrlWord config) chanCtrlRxPcodMask 27 = config.rxCode :=
    readField_chanCtrl 5 (by simp [chanCtrlFields])
      (Nat.lt_trans (code_lt h.rxCode) (by decide)) (by decide) (by decide)
  have hnsSFD : readField 8 (chanCtrlWord config) chanCtrlDwsfd 17 = config.nsSFD := by
    apply readField_chanCtrl 1 ?_ (Nat.lt_of_le_of_lt h.nsSFD (by decide)) (by decide) (by decide)
    rw [← h.nsSFD_flag]
    simp [chanCtrlFields]
  have hphrMode : readField 8 (mem.word32 ⟨sysCfgId, 0⟩) sysCfgPhrMode11 16 = config.phrMode := by
    apply readField_eq 8 config.phrMode.isLt (by decide) ?_ hphr
    rcases h.phrMode with hmode | hmode <;> rw [hmode] <;> rfl
  unfold DwtConfig.ofRegisters
  simp only [hchan, htune2, hsfdTO, hprf, hplen, hrate, hchannel, htxCode, hrxCode, hnsSFD,
    hphrMode, h.rxPAC_found]

end Valid

end Breadcrumb.Driver
