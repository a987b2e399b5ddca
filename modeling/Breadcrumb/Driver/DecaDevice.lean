import Breadcrumb.Machine.RegisterFile
import Breadcrumb.Uwb.Dw1000
import Breadcrumb.Driver.DecaRegs

/-!
Functions of `deca_device.c` as programs over the register bus. A function
that keeps something in `pdw1000local` takes the local data and hands it back.
-/

namespace Breadcrumb.Driver

open Breadcrumb.Machine
open Breadcrumb.Uwb (pmscId sysCtrlId sysStatusId txBufferId txFctrlId pmscCtrl0SoftresetOffset
  ackRespTW4rTimMask)

abbrev Bus := BusProgram RegAddr Byte

/-- `dwt_local_data_t`, without the callbacks. -/
structure DwtLocalData where
  partID : Word32
  lotID : Word32
  longFrames : Byte
  otprev : Byte
  txFCTRL : Word32
  initXtrim : Byte
  dblbuffon : Byte
  sysCFGreg : Word32
  sleepMode : Word16
  wait4resp : Byte
  deriving DecidableEq

/-! Register accesses. -/

def dwtRead32bitoffsetreg (regFileID regOffset : Nat) : Bus Word32 :=
  .read ⟨regFileID, regOffset⟩ 4 fun buffer => pure (assemble 32 buffer)

def dwtRead16bitoffsetreg (regFileID regOffset : Nat) : Bus Word16 :=
  .read ⟨regFileID, regOffset⟩ 2 fun buffer => pure (assemble 16 buffer)

def dwtRead8bitoffsetreg (regFileID regOffset : Nat) : Bus Byte :=
  .read ⟨regFileID, regOffset⟩ 1 fun buffer => pure (buffer.headD 0)

def dwtWrite8bitoffsetreg (regFileID regOffset : Nat) (regval : Byte) : Bus Unit :=
  .write ⟨regFileID, regOffset⟩ [regval] (pure ())

def dwtWrite16bitoffsetreg (regFileID regOffset : Nat) (regval : Word16) : Bus Unit :=
  .write ⟨regFileID, regOffset⟩ (leBytes 2 regval) (pure ())

def dwtWrite32bitoffsetreg (regFileID regOffset : Nat) (regval : Word32) : Bus Unit :=
  .write ⟨regFileID, regOffset⟩ (leBytes 4 regval) (pure ())

def dwtRead32bitreg (regFileID : Nat) : Bus Word32 := dwtRead32bitoffsetreg regFileID 0

def dwtWrite32bitreg (regFileID : Nat) (regval : Word32) : Bus Unit :=
  dwtWrite32bitoffsetreg regFileID 0 regval

def decaSleep (ms : Nat) : Bus Unit := .sleep ms (pure ())

/-! Clocks, reset and OTP. -/

inductive Clocks where
  | forceSysXti
  | enableAllSeq
  | forceSysPll
  | readAccOn
  | readAccOff
  | forceOtpOn
  | forceOtpOff
  | forceTxPll
  | forceLde

/-- The two bytes of PMSC_CTRL0 a setting makes of what it finds. -/
def clockBytes : Clocks → Byte → Byte → Byte × Byte
  | .enableAllSeq, _, reg1 => (0x00, reg1 &&& 0xFE)
  | .forceSysXti, reg0, reg1 => (0x01 ||| (reg0 &&& 0xFC), reg1)
  | .forceSysPll, reg0, reg1 => (0x02 ||| (reg0 &&& 0xFC), reg1)
  | .readAccOn, reg0, reg1 => (0x48 ||| (reg0 &&& 0xB3), 0x80 ||| reg1)
  | .readAccOff, reg0, reg1 => (reg0 &&& 0xB3, 0x7F &&& reg1)
  | .forceOtpOn, reg0, reg1 => (reg0, 0x02 ||| reg1)
  | .forceOtpOff, reg0, reg1 => (reg0, reg1 &&& 0xFD)
  | .forceTxPll, reg0, reg1 => (0x20 ||| (reg0 &&& 0xCF), reg1)
  | .forceLde, _, _ => (0x01, 0x03)

def dwtEnableclocks (clocks : Clocks) : Bus Unit :=
  .read ⟨pmscId, pmscCtrl0Offset⟩ 2 fun reg => do
    let (reg0, reg1) := clockBytes clocks (reg.getD 0 0) (reg.getD 1 0)
    dwtWrite8bitoffsetreg pmscId pmscCtrl0Offset reg0
    dwtWrite8bitoffsetreg pmscId 0x1 reg1

def dwtDisablesequencing : Bus Unit := do
  dwtEnableclocks .forceSysXti
  dwtWrite16bitoffsetreg pmscId pmscCtrl1Offset pmscCtrl1PktseqDisable

def dwtAonarrayupload : Bus Unit := do
  dwtWrite8bitoffsetreg aonId aonCtrlOffset 0x00
  dwtWrite8bitoffsetreg aonId aonCtrlOffset aonCtrlSave

def dwtSoftreset (l : DwtLocalData) : Bus DwtLocalData := do
  dwtDisablesequencing
  dwtWrite16bitoffsetreg aonId aonWcfgOffset 0x00
  dwtWrite8bitoffsetreg aonId aonCfg0Offset 0x00
  dwtAonarrayupload
  dwtWrite8bitoffsetreg pmscId pmscCtrl0SoftresetOffset pmscCtrl0ResetAll
  decaSleep 1
  dwtWrite8bitoffsetreg pmscId pmscCtrl0SoftresetOffset pmscCtrl0ResetClear
  pure { l with wait4resp := 0 }

def dwtRxreset : Bus Unit := do
  dwtWrite8bitoffsetreg pmscId pmscCtrl0SoftresetOffset pmscCtrl0ResetRx
  dwtWrite8bitoffsetreg pmscId pmscCtrl0SoftresetOffset pmscCtrl0ResetClear

def dwtOtpread (address : Word16) : Bus Word32 := do
  dwtWrite16bitoffsetreg otpIfId otpAddr address
  dwtWrite8bitoffsetreg otpIfId otpCtrl (otpCtrlOtpread ||| otpCtrlOtprden)
  dwtWrite8bitoffsetreg otpIfId otpCtrl 0x00
  dwtRead32bitoffsetreg otpIfId otpRdat

def ldotuneAddress : Word16 := 0x04
def partidAddress : Word16 := 0x06
def lotidAddress : Word16 := 0x07
def xtrimAddress : Word16 := 0x1E

/-- The three upper bits of the register are kept at `0b011`. -/
def dwtSetxtaltrim (value : Byte) : Bus Unit :=
  dwtWrite8bitoffsetreg fsCtrlId fsXtaltOffset (((3 : Byte) <<< 5) ||| (value &&& fsXtaltMask))

def dwtLoaducodefromrom : Bus Unit := do
  dwtEnableclocks .forceLde
  dwtWrite16bitoffsetreg otpIfId otpCtrl otpCtrlLdeload
  decaSleep 1
  dwtEnableclocks .enableAllSeq

/-- The LDO tune is kicked if there is one. -/
def dwtKickLdo (ldoTune : Word32) (l : DwtLocalData) : Bus DwtLocalData :=
  if ldoTune &&& 0xFF ≠ 0 then do
    dwtWrite8bitoffsetreg otpIfId otpSf otpSfLdoKick
    pure { l with sleepMode := l.sleepMode ||| aonWcfgOnwLldo }
  else pure l

/-- The leading edge detection is loaded, or not run at all. -/
def dwtLoadLde (config : Word16) (l : DwtLocalData) : Bus DwtLocalData :=
  if config &&& dwtLoaducode ≠ 0 then do
    dwtLoaducodefromrom
    pure { l with sleepMode := l.sleepMode ||| aonWcfgOnwLlde }
  else do
    let rega ← dwtRead16bitoffsetreg pmscId (pmscCtrl1Offset + 1)
    dwtWrite16bitoffsetreg pmscId (pmscCtrl1Offset + 1) (rega &&& 0xFDFF)
    pure l

/-- The part of `dwt_initialise` behind the check of the device ID. -/
def dwtInitialiseDevice (config : Word16) (l : DwtLocalData) : Bus DwtLocalData := do
  let l ← dwtSoftreset l
  dwtEnableclocks .forceSysXti
  dwtWrite8bitoffsetreg extSyncId ecCtrlOffset ecCtrlPlllck
  let otp ← dwtOtpread xtrimAddress
  let ldoTune ← dwtOtpread ldotuneAddress
  let l ← dwtKickLdo ldoTune { l with otprev := (otp >>> 8).setWidth 8 }
  let partID ← dwtOtpread partidAddress
  let lotID ← dwtOtpread lotidAddress
  let trim := (otp &&& 0x1F).setWidth 8
  let initXtrim := if trim = 0 then fsXtaltMidrange else trim
  dwtSetxtaltrim initXtrim
  let l ← dwtLoadLde config { l with partID := partID, lotID := lotID, initXtrim := initXtrim }
  dwtEnableclocks .enableAllSeq
  dwtWrite8bitoffsetreg aonId aonCfg1Offset 0x00
  let sysCFGreg ← dwtRead32bitreg sysCfgId
  pure { l with sysCFGreg := sysCFGreg }

/-- The flag is whether `DWT_SUCCESS` is returned. -/
def dwtInitialise (config : Word16) (l : DwtLocalData) : Bus (Bool × DwtLocalData) := do
  let l := { l with dblbuffon := 0, wait4resp := 0, sleepMode := 0 }
  let devId ← dwtRead32bitreg devIdId
  if dwtDeviceId ≠ devId then pure (false, l)
  else do
    let l ← dwtInitialiseDevice config l
    pure (true, l)

/-! Configuration. -/

/-- `dwt_config_t` -/
structure DwtConfig where
  chan : Byte
  prf : Byte
  txPreambLength : Byte
  rxPAC : Byte
  txCode : Byte
  rxCode : Byte
  nsSFD : Byte
  dataRate : Byte
  phrMode : Byte
  sfdTO : Word16
  deriving DecidableEq

/-- What `dwt_configure` asserts of a configuration, with `nsSFD` a Boolean. -/
structure DwtConfig.Valid (config : DwtConfig) : Prop where
  dataRate : config.dataRate ≤ dwtBr6m8
  rxPAC : config.rxPAC ≤ dwtPac64
  chan : 1 ≤ config.chan ∧ config.chan ≤ 7 ∧ config.chan ≠ 6
  txCode : (config.prf = dwtPrf64m ∧ 9 ≤ config.txCode ∧ config.txCode ≤ 24) ∨
    (config.prf = dwtPrf16m ∧ 1 ≤ config.txCode ∧ config.txCode ≤ 8)
  rxCode : (config.prf = dwtPrf64m ∧ 9 ≤ config.rxCode ∧ config.rxCode ≤ 24) ∨
    (config.prf = dwtPrf16m ∧ 1 ≤ config.rxCode ∧ config.rxCode ≤ 8)
  txPreambLength : config.txPreambLength ∈ [dwtPlen64, dwtPlen128, dwtPlen256, dwtPlen512,
    dwtPlen1024, dwtPlen1536, dwtPlen2048, dwtPlen4096]
  phrMode : config.phrMode = dwtPhrmodeStd ∨ config.phrMode = dwtPhrmodeExt
  nsSFD : config.nsSFD ≤ 1

/-- Two indices into a table. -/
def lookup2 {α : Type} (table : List (List α)) (i j : Nat) (none : α) : α :=
  (table.getD i []).getD j none

def dwtConfiglde (prfIndex : Byte) : Bus Unit := do
  dwtWrite8bitoffsetreg ldeIfId ldeCfg1Offset ldeParam1
  dwtWrite16bitoffsetreg ldeIfId ldeCfg2Offset (if prfIndex ≠ 0 then ldeParam364 else ldeParam316)

/-- What `dwt_configure` makes of the copy of SYS_CFG. -/
def configuredSysCfg (config : DwtConfig) (sysCFGreg : Word32) : Word32 :=
  let sysCFGreg :=
    if config.dataRate = dwtBr110k then sysCFGreg ||| sysCfgRxm110k
    else sysCFGreg &&& ~~~sysCfgRxm110k
  (sysCFGreg &&& ~~~sysCfgPhrMode11) |||
    (sysCfgPhrMode11 &&& (config.phrMode.setWidth 32 <<< 16))

/-- The channel control word. -/
def chanCtrlWord (config : DwtConfig) : Word32 :=
  let nsSfdResult : Word32 := if config.nsSFD ≠ 0 then 3 else 0
  let useDWnsSFD : Word32 := if config.nsSFD ≠ 0 then 1 else 0
  (chanCtrlTxChanMask &&& config.chan.setWidth 32) |||
    (chanCtrlRxChanMask &&& (config.chan.setWidth 32 <<< 4)) |||
    (chanCtrlRxfprfMask &&& (config.prf.setWidth 32 <<< 18)) |||
    ((chanCtrlTnssfd ||| chanCtrlRnssfd) &&& (nsSfdResult <<< 20)) |||
    (chanCtrlDwsfd &&& (useDWnsSFD <<< 17)) |||
    (chanCtrlTxPcodMask &&& (config.txCode.setWidth 32 <<< 22)) |||
    (chanCtrlRxPcodMask &&& (config.rxCode.setWidth 32 <<< 27))

/-- Preamble size, PRF and data rate as TX_FCTRL has them. -/
def txFctrlWord (config : DwtConfig) : Word32 :=
  ((config.txPreambLength ||| config.prf).setWidth 32 <<< 16) |||
    (config.dataRate.setWidth 32 <<< 13)

def dwtConfigureTune1b (config : DwtConfig) : Bus Unit :=
  if config.dataRate = dwtBr110k then
    dwtWrite16bitoffsetreg drxConfId drxTune1bOffset drxTune1b110k
  else if config.txPreambLength = dwtPlen64 then do
    dwtWrite16bitoffsetreg drxConfId drxTune1bOffset drxTune1b6m8Pre64
    dwtWrite8bitoffsetreg drxConfId drxTune4hOffset drxTune4hPre64
  else do
    dwtWrite16bitoffsetreg drxConfId drxTune1bOffset drxTune1b850k6m8
    dwtWrite8bitoffsetreg drxConfId drxTune4hOffset drxTune4hPre128plus

/-- An SFD timeout of zero is replaced, also in the caller's structure. -/
def DwtConfig.withSfdTimeout (config : DwtConfig) : DwtConfig :=
  if config.sfdTO = 0 then { config with sfdTO := dwtSfdtocDef } else config

/-- The registers of `dwt_configure` between SYS_CFG and TX_FCTRL. The tables are indexed as
the source does, past their ends with zero. -/
def dwtConfigureRf (config : DwtConfig) : Bus DwtConfig := do
  let chan := chanIdx.getD config.chan.toNat 0
  let bw := if config.chan = 4 ∨ config.chan = 7 then 1 else 0
  let prfIndex := config.prf - dwtPrf16m
  let coeff := ldeReplicaCoeff.getD config.rxCode.toNat 0
  let reg16 := if config.dataRate = dwtBr110k then coeff >>> 3 else coeff
  dwtWrite16bitoffsetreg ldeIfId ldeRepcOffset reg16
  dwtConfiglde prfIndex
  dwtWrite32bitoffsetreg fsCtrlId fsPllcfgOffset (fsPllCfg.getD chan 0)
  dwtWrite8bitoffsetreg fsCtrlId fsPlltuneOffset (fsPllTune.getD chan 0)
  dwtWrite8bitoffsetreg rfConfId rfRxctrlhOffset (rxConfig.getD bw 0)
  dwtWrite32bitoffsetreg rfConfId rfTxctrlOffset (txConfig.getD chan 0)
  dwtWrite16bitoffsetreg drxConfId drxTune0bOffset
    (lookup2 sftsh config.dataRate.toNat config.nsSFD.toNat 0)
  dwtWrite16bitoffsetreg drxConfId drxTune1aOffset (dtune1.getD prfIndex.toNat 0)
  dwtConfigureTune1b config
  dwtWrite32bitoffsetreg drxConfId drxTune2Offset
    (lookup2 digitalBbConfig prfIndex.toNat config.rxPAC.toNat 0)
  let config := config.withSfdTimeout
  dwtWrite16bitoffsetreg drxConfId drxSfdtocOffset config.sfdTO
  dwtWrite32bitoffsetreg agcCfgStsId 0xC agcConfigLo32
  dwtWrite16bitoffsetreg agcCfgStsId 0x4 (agcConfigTarget.getD prfIndex.toNat 0)
  if config.nsSFD ≠ 0 then
    dwtWrite8bitoffsetreg usrSfdId 0x00 (dwnsSFDlen.getD config.dataRate.toNat 0)
  dwtWrite32bitreg chanCtrlId (chanCtrlWord config)
  pure config

/-- `dwt_configure` behind the write to SYS_CFG. -/
def dwtConfigureRadio (config : DwtConfig) (l : DwtLocalData) : Bus (DwtConfig × DwtLocalData) := do
  let config ← dwtConfigureRf config
  let l := { l with txFCTRL := txFctrlWord config }
  dwtWrite32bitreg txFctrlId l.txFCTRL
  dwtWrite8bitoffsetreg sysCtrlId 0 (sysCtrlTxstrt ||| sysCtrlTrxoff)
  pure (config, l)

/-- `dwt_configure` -/
def dwtConfigure (config : DwtConfig) (l : DwtLocalData) : Bus (DwtConfig × DwtLocalData) := do
  let l := { l with
    sysCFGreg := configuredSysCfg config l.sysCFGreg
    longFrames := config.phrMode }
  dwtWrite32bitreg sysCfgId l.sysCFGreg
  dwtConfigureRadio config l

def dwtSetrxantennadelay (rxDelay : Word16) : Bus Unit :=
  dwtWrite16bitoffsetreg ldeIfId ldeRxantdOffset rxDelay

def dwtSettxantennadelay (txDelay : Word16) : Bus Unit :=
  dwtWrite16bitoffsetreg txAntdId 0 txDelay

def dwtSetrxaftertxdelay (rxDelayTime : Word32) : Bus Unit := do
  let val ← dwtRead32bitreg ackRespTId
  dwtWrite32bitreg ackRespTId
    ((val &&& ~~~ackRespTW4rTimMask) ||| (rxDelayTime &&& ackRespTW4rTimMask))

def dwtSetpreambledetecttimeout (timeout : Word16) : Bus Unit :=
  dwtWrite16bitoffsetreg drxConfId drxPretocOffset timeout

def dwtEnableframefilter (enable : Word16) (l : DwtLocalData) : Bus DwtLocalData := do
  let sysconfig ← dwtRead32bitreg sysCfgId
  let sysconfig := sysCfgMask &&& sysconfig
  let sysconfig :=
    if enable ≠ 0 then
      (sysconfig &&& ~~~sysCfgFfAllEn) ||| ((enable.setWidth 32 &&& sysCfgFfAllEn) ||| sysCfgFfe)
    else sysconfig &&& ~~~sysCfgFfe
  dwtWrite32bitreg sysCfgId sysconfig
  pure { l with sysCFGreg := sysconfig }

def dwtSetsmarttxpower (enable : Bool) (l : DwtLocalData) : Bus DwtLocalData := do
  let sysCFGreg ← dwtRead32bitreg sysCfgId
  let l := { l with
    sysCFGreg := if enable then sysCFGreg &&& ~~~sysCfgDisStxp else sysCFGreg ||| sysCfgDisStxp }
  dwtWrite32bitreg sysCfgId l.sysCFGreg
  pure l

def dwtEnableautoack (responseDelayTime : Byte) (l : DwtLocalData) : Bus DwtLocalData := do
  dwtWrite8bitoffsetreg ackRespTId ackRespTAckTimOffset responseDelayTime
  let l := { l with sysCFGreg := l.sysCFGreg ||| sysCfgAutoack }
  dwtWrite32bitreg sysCfgId l.sysCFGreg
  pure l

def dwtSetdblrxbuffmode (enable : Bool) (l : DwtLocalData) : Bus DwtLocalData := do
  let l :=
    if enable then { l with sysCFGreg := l.sysCFGreg &&& ~~~sysCfgDisDrxb, dblbuffon := 1 }
    else { l with sysCFGreg := l.sysCFGreg ||| sysCfgDisDrxb, dblbuffon := 0 }
  dwtWrite32bitreg sysCfgId l.sysCFGreg
  pure l

/-- Only the upper byte of SYS_CFG is read and written back. -/
def dwtSetrxtimeout (time : Word16) (l : DwtLocalData) : Bus DwtLocalData := do
  let temp ← dwtRead8bitoffsetreg sysCfgId 3
  if time > 0 then do
    dwtWrite16bitoffsetreg rxFwtoId 0 time
    dwtWrite8bitoffsetreg sysCfgId 3 (temp ||| (sysCfgRxwtoe >>> 24).setWidth 8)
    pure { l with sysCFGreg := l.sysCFGreg ||| sysCfgRxwtoe }
  else do
    dwtWrite8bitoffsetreg sysCfgId 3 (temp &&& ~~~(sysCfgRxwtoe >>> 24).setWidth 8)
    pure { l with sysCFGreg := l.sysCFGreg &&& ~~~sysCfgRxwtoe }

end Breadcrumb.Driver
