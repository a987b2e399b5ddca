import Breadcrumb.Machine.EventRegister
import Breadcrumb.Driver.DecaDevice

/-!
Functions of `deca_device.c` that move frames and run the transceiver.
`decamutexon` and `decamutexoff` do nothing on this port.
-/

namespace Breadcrumb.Driver

open Breadcrumb.Machine
open Breadcrumb.Uwb (sysCtrlId sysStatusId txBufferId txFctrlId sysStatusTxfrs sysStatusRxfcg
  sysStatusRxrfto sysStatusAllRxErr sysStatusAllRxTo drxCarrierIntMask b20SignExtendTest
  b20SignExtendMask)

/-- The driver adds the check-sum itself: two bytes of the frame stay behind. -/
def dwtWritetxdata (txFrameBytes : List Byte) (txBufferOffset : Nat) : Bus Bool :=
  if txBufferOffset + txFrameBytes.length ≤ 1024 then
    .write ⟨txBufferId, txBufferOffset⟩ (txFrameBytes.take (txFrameBytes.length - 2)) (pure true)
  else pure false

def dwtWritetxfctrl (txFrameLength txBufferOffset : Word16) (ranging : Word32)
    (l : DwtLocalData) : Bus Unit :=
  dwtWrite32bitreg txFctrlId
    (l.txFCTRL ||| txFrameLength.setWidth 32 |||
      (txBufferOffset.setWidth 32 <<< txFctrlTxboffsShft) ||| (ranging <<< txFctrlTrShft))

def dwtReadrxdata (length rxBufferOffset : Nat) : Bus (List Byte) :=
  .read ⟨rxBufferId, rxBufferOffset⟩ length pure

/-- A 21-bit signed quantity in three bytes. -/
def dwtReadcarrierintegrator : Bus Int :=
  .read ⟨drxConfId, drxCarrierIntOffset⟩ 3 fun buffer =>
    let regval := assemble 32 buffer
    pure (if regval &&& b20SignExtendTest ≠ 0 then (regval ||| b20SignExtendMask).toInt
      else (regval &&& drxCarrierIntMask).toInt)

def dwtReadtxtimestamplo32 : Bus Word32 := dwtRead32bitreg txTimeId

def dwtReadrxtimestamplo32 : Bus Word32 := dwtRead32bitreg rxTimeId

/-- `dwt_starttx` once WAIT4RESP is dealt with. -/
def dwtStarttxFrame (mode temp : Byte) (l : DwtLocalData) : Bus (Bool × DwtLocalData) :=
  if mode &&& dwtStartTxDelayed ≠ 0 then do
    dwtWrite8bitoffsetreg sysCtrlId 0 (temp ||| (sysCtrlTxdlys ||| sysCtrlTxstrt))
    let checkTxOK ← dwtRead16bitoffsetreg sysStatusId 3
    if checkTxOK &&& sysStatusTxerr = 0 then pure (true, l)
    else do
      dwtWrite8bitoffsetreg sysCtrlId 0 sysCtrlTrxoff
      pure (false, { l with wait4resp := 0 })
  else do
    dwtWrite8bitoffsetreg sysCtrlId 0 (temp ||| sysCtrlTxstrt)
    pure (true, l)

/-- The flag is whether `DWT_SUCCESS` is returned. -/
def dwtStarttx (mode : Byte) (l : DwtLocalData) : Bus (Bool × DwtLocalData) :=
  if mode &&& dwtResponseExpected ≠ 0 then do
    dwtWrite8bitoffsetreg sysCtrlId 0 sysCtrlWait4resp
    dwtStarttxFrame mode sysCtrlWait4resp { l with wait4resp := 1 }
  else dwtStarttxFrame mode 0 l

/-- The two buffer pointers stand side by side in the upper byte of the status. -/
def dwtSyncrxbufptrs : Bus Unit := do
  let buff ← dwtRead8bitoffsetreg sysStatusId 3
  if buff &&& (sysStatusIcrbp >>> 24).setWidth 8 ≠
      (buff &&& (sysStatusHsrbp >>> 24).setWidth 8) <<< 1 then
    dwtWrite8bitoffsetreg sysCtrlId sysCtrlHrbtOffset 0x01

def sysStatusAllRxGood : Word32 :=
  sysStatusRxdfr ||| sysStatusRxfcg ||| sysStatusRxprd ||| sysStatusRxsfdd ||| sysStatusRxphd |||
    sysStatusLdedone

def sysStatusAllTx : Word32 :=
  sysStatusAat ||| sysStatusTxfrb ||| sysStatusTxprs ||| sysStatusTxphs ||| sysStatusTxfrs

def dwtForcetrxoff (l : DwtLocalData) : Bus DwtLocalData := do
  let mask ← dwtRead32bitreg sysMaskId
  dwtWrite32bitreg sysMaskId 0
  dwtWrite8bitoffsetreg sysCtrlId 0 sysCtrlTrxoff
  dwtWrite32bitreg sysStatusId
    (sysStatusAllTx ||| sysStatusAllRxErr ||| sysStatusAllRxTo ||| sysStatusAllRxGood)
  dwtSyncrxbufptrs
  dwtWrite32bitreg sysMaskId mask
  pure { l with wait4resp := 0 }

/-- The check behind a delayed start of the receiver. -/
def dwtRxenableCheck (mode : Byte) (l : DwtLocalData) : Bus (Bool × DwtLocalData) := do
  let temp1 ← dwtRead8bitoffsetreg sysStatusId 3
  if temp1 &&& (sysStatusHpdwarn >>> 24).setWidth 8 ≠ 0 then do
    let l ← dwtForcetrxoff l
    if mode &&& dwtIdleOnDlyErr = 0 then do
      dwtWrite16bitoffsetreg sysCtrlId 0 sysCtrlRxenab
      pure (false, l)
    else pure (false, l)
  else pure (true, l)

/-- `dwt_rxenable` with the buffer pointers in step. -/
def dwtRxenableStart (mode : Byte) (l : DwtLocalData) : Bus (Bool × DwtLocalData) :=
  if mode &&& dwtStartRxDelayed ≠ 0 then do
    dwtWrite16bitoffsetreg sysCtrlId 0 (sysCtrlRxenab ||| sysCtrlRxdlye)
    dwtRxenableCheck mode l
  else do
    dwtWrite16bitoffsetreg sysCtrlId 0 sysCtrlRxenab
    pure (true, l)

def dwtRxenable (mode : Byte) (l : DwtLocalData) : Bus (Bool × DwtLocalData) :=
  if mode &&& dwtNoSyncPtrs = 0 then do
    dwtSyncrxbufptrs
    dwtRxenableStart mode l
  else dwtRxenableStart mode l

def dwtSetinterrupt (bitmask : Word32) (enable : Bool) : Bus Unit := do
  let mask ← dwtRead32bitreg sysMaskId
  dwtWrite32bitreg sysMaskId (if enable then mask ||| bitmask else mask &&& ~~~bitmask)

/-! The interrupt service routine. -/

/-- Registers that take what is written, but for the status register: ones clear. -/
def statusChip : Chip RegisterFile :=
  registerChip fun a old byte => if a.recordNumber = sysStatusId then clearOnes old byte else byte

end Breadcrumb.Driver
