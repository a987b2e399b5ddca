import Breadcrumb.Driver.Transceiver
import Breadcrumb.Uwb.Ranging

/-!
`ss_init_run` as a program over the register bus, and the accesses it is to
make: the answers of the DW1000 by the registers they are read from, and the
reads and writes that belong to them.
-/

namespace Breadcrumb.Driver

open Breadcrumb.Machine
open Breadcrumb.Uwb hiding ssInitRun finishRun readFrame readRanging dwtWrite32bitreg
  dwtWrite8bitoffsetreg dwtWritetxdata dwtWritetxfctrl dwtRxreset dwtRead32bitreg
  dwtReadtxtimestamplo32 dwtReadrxtimestamplo32 dwtReadcarrierintegrator

section Program

variable {F D : Type} [CFloat F] [CDouble F D]

def rngDelayMs : Nat := 500

def sendPoll (l : DwtLocalData) (s : Initiator D) : Bus DwtLocalData := do
  dwtWrite32bitreg sysStatusId sysStatusTxfrs
  let _ ← dwtWritetxdata (bytes s.txPollMsg) 0
  dwtWritetxfctrl 12 0 1 l
  let (_, l) ← dwtStarttx (dwtStartTxImmediate ||| dwtResponseExpected) l
  pure l

/-- `while (!((status_reg = dwt_read32bitreg(SYS_STATUS_ID)) & mask))`, for at most `fuel`
reads. -/
def waitEvent : Nat → Bus (Option Word32)
  | 0 => pure none
  | fuel + 1 => do
      let statusReg ← dwtRead32bitreg sysStatusId
      if statusReg &&& waitMask ≠ 0 then pure (some statusReg) else waitEvent fuel

/-- A frame that does not fit stays in the DW1000. -/
def fetchFrame (frameLen : Nat) (rxBuffer : Buffer 20) : Bus (Buffer 20) :=
  if frameLen ≤ rxBufLen then do
    let buffer ← dwtReadrxdata frameLen 0
    pure (overlay rxBuffer frameLen (pointer buffer))
  else pure rxBuffer

def readFrame (s : Initiator D) : Bus (Initiator D) := do
  let rxFinfo ← dwtRead32bitreg rxFinfoId
  let rxBuffer ← fetchFrame (rxFinfo &&& rxFinfoRxflenMask).toNat s.rxBuffer
  pure { s with rxBuffer := fun i => if i.val = allMsgSnIdx then 0 else rxBuffer i }

def readRanging (s : Initiator D) : Bus Ranging := do
  let pollTxTs ← dwtReadtxtimestamplo32
  let respRxTs ← dwtReadrxtimestamplo32
  let carrierIntegrator ← dwtReadcarrierintegrator
  pure {
    pollTxTs := pollTxTs
    respRxTs := respRxTs
    carrierIntegrator := carrierIntegrator
    pollRxTs := respMsgGetTs (bytesAt s.rxBuffer respMsgPollRxTsIdx)
    respTxTs := respMsgGetTs (bytesAt s.rxBuffer respMsgRespTxTsIdx) }

/-- The header check and what follows from it. -/
def takeRange (s : Initiator D) : Bus (Initiator D) :=
  if SameBytes allMsgCommonLen s.rxBuffer s.rxRespMsg then do
    let r ← readRanging s
    pure (storeRange r s)
  else pure s

/-- What is done with a good frame. -/
def takeFrame (s : Initiator D) : Bus (Initiator D) := do
  let s ← readFrame s
  takeRange s

/-- `ss_init_run` behind the wait loop that ended on `status`. -/
def finishRun (status : Word32) (s : Initiator D) : Bus (Option (Report D) × Initiator D) := do
  let s := frameIncr s.targetNode { s with statusReg := status }
  if status &&& sysStatusRxfcg ≠ 0 then do
    dwtWrite32bitreg sysStatusId sysStatusRxfcg
    let s ← takeFrame s
    pure (some (printDistance s.targetNode s), s)
  else do
    dwtWrite32bitreg sysStatusId (sysStatusAllRxTo ||| sysStatusAllRxErr)
    dwtRxreset
    pure (none, s)

/-- `ss_init_run`, `none` if the wait loop has not ended after `fuel` reads. -/
def ssInitRun (fuel : Nat) (l : DwtLocalData) (s : Initiator D) :
    Bus (Option (Option (Report D) × Initiator D × DwtLocalData)) := do
  let s := startPoll s
  let l ← sendPoll l s
  let status ← waitEvent fuel
  match status with
  | none => pure none
  | some status => do
      let (report, s) ← finishRun status s
      decaSleep rngDelayMs
      pure (some (report, s, l))

end Program

/-! Accesses. -/

/-- What was read first at an address. -/
def readAt (reads : List (RegAddr × List Byte)) (a : RegAddr) : List Byte :=
  ((reads.filter fun r => r.1 = a).map Prod.snd).headD []

/-- The answers of the DW1000, each by the register it was read from. -/
def radioOfReads (reads : List (RegAddr × List Byte)) : Radio where
  status := (reads.filter fun r => r.1 = ⟨sysStatusId, 0⟩).map fun r => assemble 32 r.2
  rxFinfo := assemble 32 (readAt reads ⟨rxFinfoId, 0⟩)
  rxBuffer := pointer (readAt reads ⟨rxBufferId, 0⟩)
  txTime := assemble 40 (readAt reads ⟨txTimeId, 0⟩)
  rxTime := assemble 40 (readAt reads ⟨rxTimeId, 0⟩)
  carrierInt := assemble 24 (readAt reads ⟨drxConfId, drxCarrierIntOffset⟩)

section Accesses

variable {F D : Type} [CFloat F] [CDouble F D]

/-- A recorded write, as the bus sees it. -/
def busWrite (w : BusWrite) : RegAddr × List Byte := (⟨w.recordNumber, w.index⟩, w.buffer)

/-- The registers a good frame is read from, and how many bytes of each. -/
def frameReads (radio : Radio) : List (RegAddr × Nat) :=
  (⟨rxFinfoId, 0⟩, 4) ::
    if radio.frameLen ≤ rxBufLen then [(⟨rxBufferId, 0⟩, radio.frameLen)] else []

/-- The registers of the readings behind the header check. -/
def rangingReads : List (RegAddr × Nat) :=
  [(⟨txTimeId, 0⟩, 4), (⟨rxTimeId, 0⟩, 4), (⟨drxConfId, drxCarrierIntOffset⟩, 3)]

/-- The reads of a call, whether or not it has returned. -/
def callReads (s : Initiator D) (radio : Radio) : List (RegAddr × Nat) :=
  radio.status.map (fun _ => (⟨sysStatusId, 0⟩, 4)) ++
    match Uwb.ssInitRun s radio with
    | none => []
    | some (x, _) =>
        if x.statusWord &&& sysStatusRxfcg ≠ 0 then
          frameReads radio ++ if x.ranging.isSome then rangingReads else []
        else []

/-- The writes of a call, whether or not it has returned. -/
def callWrites (s : Initiator D) (radio : Radio) : List BusWrite :=
  match Uwb.ssInitRun s radio with
  | none => pollWrites (startPoll s)
  | some (x, _) => x.pollWrites ++ x.ackWrites

section Calls

variable {s s' : Initiator D} {radio : Radio} {x : Exchange D}

theorem callReads_none (h : Uwb.ssInitRun s radio = none) :
    callReads s radio = radio.status.map fun _ => (⟨sysStatusId, 0⟩, 4) := by
  rw [callReads, h, List.append_nil]

theorem callReads_some (h : Uwb.ssInitRun s radio = some (x, s')) :
    callReads s radio = radio.status.map (fun _ => (⟨sysStatusId, 0⟩, 4)) ++
      if x.statusWord &&& sysStatusRxfcg ≠ 0 then
        frameReads radio ++ if x.ranging.isSome then rangingReads else []
      else [] := by
  rw [callReads, h]

theorem callWrites_none (h : Uwb.ssInitRun s radio = none) :
    callWrites s radio = pollWrites (startPoll s) := by
  rw [callWrites, h]

theorem callWrites_some (h : Uwb.ssInitRun s radio = some (x, s')) :
    callWrites s radio = x.pollWrites ++ x.ackWrites := by
  rw [callWrites, h]

end Calls

/-- Where bytes were read, and how many. -/
def extent (r : RegAddr × List Byte) : RegAddr × Nat := (r.1, r.2.length)

end Accesses

end Breadcrumb.Driver
