import Breadcrumb.Machine.Buffer

/-!
The part of the DW1000 driver a ranging exchange goes through: register
constants of `deca_regs.h`, the reads the program makes, and the writes it
puts on the bus. A write is recorded as `dwt_writetodevice` issues it, with
the register file, the index into it and the bytes.
-/

namespace Breadcrumb.Uwb

open Breadcrumb.Machine

def pmscId : Nat := 0x36
def pmscCtrl0SoftresetOffset : Nat := 3
def sysCtrlId : Nat := 0x0D
def sysStatusId : Nat := 0x0F
def txBufferId : Nat := 0x09
def txFctrlId : Nat := 0x08

def sysStatusTxfrs : Word32 := 0x00000080
def sysStatusRxphe : Word32 := 0x00001000
def sysStatusRxfcg : Word32 := 0x00004000
def sysStatusRxfce : Word32 := 0x00008000
def sysStatusRxrfsl : Word32 := 0x00010000
def sysStatusRxrfto : Word32 := 0x00020000
def sysStatusLdeerr : Word32 := 0x00040000
def sysStatusRxpto : Word32 := 0x00200000
def sysStatusRxsfdto : Word32 := 0x04000000
def sysStatusAffrej : Word32 := 0x20000000

def sysStatusAllRxErr : Word32 :=
  sysStatusRxphe ||| sysStatusRxfce ||| sysStatusRxrfsl ||| sysStatusRxsfdto |||
    sysStatusAffrej ||| sysStatusLdeerr

def sysStatusAllRxTo : Word32 := sysStatusRxrfto ||| sysStatusRxpto

/-- The bits that end the wait loop of `ss_init_run`. -/
def waitMask : Word32 := sysStatusRxfcg ||| sysStatusAllRxTo ||| sysStatusAllRxErr

def rxFinfoRxflenMask : Word32 := 0x0000007F
def ackRespTW4rTimMask : Word32 := 0x000FFFFF
def drxCarrierIntMask : Word32 := 0x001FFFFF
def b20SignExtendTest : Word32 := 0x00100000
def b20SignExtendMask : Word32 := 0xFFF00000

/-- One `dwt_writetodevice(recordNumber, index, length, buffer)`. -/
structure BusWrite where
  recordNumber : Nat
  index : Nat
  buffer : List Byte
  deriving DecidableEq

def dwtWrite32bitreg (regFileID : Nat) (regval : Word32) : BusWrite :=
  ⟨regFileID, 0, leBytes 4 regval⟩

def dwtWrite8bitoffsetreg (regFileID regOffset : Nat) (regval : Byte) : BusWrite :=
  ⟨regFileID, regOffset, [regval]⟩

/-- The driver adds the check-sum itself: two bytes of the frame stay behind. -/
def dwtWritetxdata {n : Nat} (txFrameBytes : Buffer n) (txBufferOffset : Nat) :
    List BusWrite :=
  if txBufferOffset + n ≤ 1024 then
    [⟨txBufferId, txBufferOffset, (bytes txFrameBytes).take (n - 2)⟩]
  else []

/-- `pdw1000local->txFCTRL` as `dwt_configure(&config)` leaves it: preamble
length `DWT_PLEN_128`, PRF `DWT_PRF_64M`, data rate `DWT_BR_6M8`. -/
def txFctrl : Word32 := ((0x14 ||| 2) <<< 16) ||| (2 <<< 13)

def dwtWritetxfctrl (txFrameLength txBufferOffset ranging : Word32) : BusWrite :=
  dwtWrite32bitreg txFctrlId
    (txFctrl ||| txFrameLength ||| (txBufferOffset <<< 22) ||| (ranging <<< 15))

/-- `dwt_starttx(DWT_START_TX_IMMEDIATE | DWT_RESPONSE_EXPECTED)`: arm the
receiver, then start. -/
def dwtStarttxResponseExpected : List BusWrite :=
  [dwtWrite8bitoffsetreg sysCtrlId 0 0x80, dwtWrite8bitoffsetreg sysCtrlId 0 0x82]

def dwtRxreset : List BusWrite :=
  [dwtWrite8bitoffsetreg pmscId pmscCtrl0SoftresetOffset 0xE0,
    dwtWrite8bitoffsetreg pmscId pmscCtrl0SoftresetOffset 0xF0]

/-- `dwt_read32bitreg` on a register of any width. -/
def dwtRead32bitreg {v : Nat} (reg : BitVec v) : Word32 := assemble 32 (leBytes 4 reg)

def dwtReadtxtimestamplo32 (txTime : BitVec 40) : Word32 := dwtRead32bitreg txTime

def dwtReadrxtimestamplo32 (rxTime : BitVec 40) : Word32 := dwtRead32bitreg rxTime

/-- `dwt_readcarrierintegrator`: three bytes, sign-extended from bit 20. -/
def dwtReadcarrierintegrator (carrierInt : BitVec 24) : Int :=
  let regval := assemble 32 (leBytes 3 carrierInt)
  if regval &&& b20SignExtendTest ≠ 0 then (regval ||| b20SignExtendMask).toInt
  else (regval &&& drxCarrierIntMask).toInt

/-- What one ranging exchange reads from the DW1000: the SYS_STATUS words of
the successive polls, RX_FINFO, the receive buffer, both 40-bit timestamps and
the carrier integrator. -/
structure Radio where
  status : List Word32
  rxFinfo : Word32
  rxBuffer : Nat → Byte
  txTime : BitVec 40
  rxTime : BitVec 40
  carrierInt : BitVec 24

/-- A receive timeout, with nothing in the receive buffer. -/
def timeoutRadio : Radio := ⟨[0, sysStatusRxrfto], 0, fun _ => 0, 0, 0, 0⟩

/-- `dwt_read32bitreg(RX_FINFO_ID) & RX_FINFO_RXFLEN_MASK` -/
def Radio.frameLen (radio : Radio) : Nat := (radio.rxFinfo &&& rxFinfoRxflenMask).toNat

/-- The registers that bound how long the receiver listens after a poll. -/
structure RxWindow where
  ackRespT : Word32
  rxFwto : Word16
  rxWaitTimeout : Bool

def dwtSetrxaftertxdelay (rxDelayTime : Word32) (w : RxWindow) : RxWindow :=
  { w with ackRespT := (w.ackRespT &&& ~~~ackRespTW4rTimMask) |||
      (rxDelayTime &&& ackRespTW4rTimMask) }

def dwtSetrxtimeout (time : Word16) (w : RxWindow) : RxWindow :=
  if time.toNat > 0 then { w with rxFwto := time, rxWaitTimeout := true }
  else { w with rxWaitTimeout := false }

theorem dwtRead32bitreg_eq {v : Nat} (reg : BitVec v) :
    dwtRead32bitreg reg = reg.setWidth 32 := assemble_low_word reg

/-- The integrator reading is a 21-bit signed quantity. -/
theorem dwtReadcarrierintegrator_range (carrierInt : BitVec 24) :
    -2 ^ 20 ≤ dwtReadcarrierintegrator carrierInt ∧
      dwtReadcarrierintegrator carrierInt < 2 ^ 20 := by
  unfold dwtReadcarrierintegrator
  generalize assemble 32 (leBytes 3 carrierInt) = regval
  have hsplit : drxCarrierIntMask = b20SignExtendTest ||| 0x000FFFFF := by decide
  by_cases hsign : regval &&& b20SignExtendTest = 0
  · have hlow : regval &&& drxCarrierIntMask = regval &&& 0x000FFFFF := by
      rw [hsplit, BitVec.and_or_distrib_left, hsign]
      exact BitVec.zero_or
    have hle : (regval &&& 0x000FFFFF).toNat ≤ 0x000FFFFF := by
      rw [BitVec.toNat_and]
      exact Nat.and_le_right
    simp only [hsign, ne_eq, not_true_eq_false, if_false, hlow]
    rw [BitVec.toInt_eq_toNat_of_lt (by omega)]
    omega
  · have hge : 0xFFF00000 ≤ (regval ||| b20SignExtendMask).toNat := by
      rw [BitVec.toNat_or]
      exact Nat.right_le_or
    have hlt := (regval ||| b20SignExtendMask).isLt
    simp only [hsign, ne_eq, not_false_eq_true, if_true]
    rw [BitVec.toInt_eq_toNat_cond, if_neg (by omega)]
    omega

end Breadcrumb.Uwb
