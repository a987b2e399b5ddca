import Breadcrumb.Machine.Run
import Breadcrumb.Machine.EventRegister
import Breadcrumb.Uwb.Distance

/-!
The single-sided two-way ranging initiator of `uwb_bread.c`: its file-scope
state, the helpers `ss_init_run` calls, and `ss_init_run` itself as a function
of the state and of what the DW1000 answers during the call. A call whose wait
loop sees no event in the status words it is given has not returned.
-/

namespace Breadcrumb.Uwb

open Breadcrumb.Machine

/-- The file-scope variables of `uwb_bread.c` that the program uses. -/
structure Initiator (D : Type) where
  txPollMsg : Buffer 12
  rxRespMsg : Buffer 20
  frameSeqNb1 : Byte
  frameSeqNb2 : Byte
  frameSeqNb3 : Byte
  rxBuffer : Buffer 20
  statusReg : Word32
  tof : D
  distance : D
  distanceUncal : D
  txCount : Nat
  rxCount : Nat
  targetNode : Nat

def rxBufLen : Nat := 20
def allMsgCommonLen : Nat := 10
def allMsgSnIdx : Nat := 2
def respMsgPollRxTsIdx : Nat := 10
def respMsgRespTxTsIdx : Nat := 14
def respMsgTsLen : Nat := 4

section Program

variable {F D : Type} [CFloat F] [CDouble F D]

open CFloat CDouble

/-- The static initialisers. -/
def powerOn : Initiator D where
  txPollMsg := ![0x41, 0x88, 0, 0xCA, 0xDE, chr 'P', chr 'U', chr 'R', chr 'Y', 0xE0, 0, 0]
  rxRespMsg := ![0x41, 0x88, 0, 0xCA, 0xDE, chr 'R', chr 'Y', chr 'P', chr 'U', 0xE1,
    0, 0, 0, 0, 0, 0, 0, 0, 0, 0]
  frameSeqNb1 := 0
  frameSeqNb2 := 0
  frameSeqNb3 := 0
  rxBuffer := fun _ => 0
  statusReg := 0
  tof := doubleLit 0
  distance := doubleLit 0
  distanceUncal := doubleLit 0
  txCount := 0
  rxCount := 0
  targetNode := 0

/-- One branch of `target_node_select`: patch the destination and sequence
number of the poll and the source of the expected response. -/
def selectAddress (a b frameSeqNb : Byte) (s : Initiator D) : Initiator D :=
  { s with
    txPollMsg := Function.update (Function.update (Function.update s.txPollMsg 5 a) 6 b)
      2 frameSeqNb
    rxRespMsg := Function.update (Function.update s.rxRespMsg 7 a) 8 b }

def targetNodeSelect (targetNode : Nat) (s : Initiator D) : Initiator D :=
  if targetNode = 1 then selectAddress (chr 'P') (chr 'U') s.frameSeqNb1 s
  else if targetNode = 2 then selectAddress (chr 'C') (chr 'H') s.frameSeqNb2 s
  else if targetNode = 3 then selectAddress (chr 'B') (chr 'A') s.frameSeqNb3 s
  else s

/-- Twelve node numbers share three counters. -/
def frameIncr (targetNode : Nat) (s : Initiator D) : Initiator D :=
  match targetNode with
  | 1 | 4 | 7 | 10 => { s with frameSeqNb1 := s.frameSeqNb1 + 1 }
  | 2 | 5 | 8 | 11 => { s with frameSeqNb2 := s.frameSeqNb2 + 1 }
  | 3 | 6 | 9 | 12 => { s with frameSeqNb3 := s.frameSeqNb3 + 1 }
  | _ => s

/-- `*ts += ts_field[i] << (i * 8)` for `i = 0 .. 3`. The byte is promoted to
`int` before the shift; with two's complement the sum is the same modulo
`2 ^ 32`. -/
def respMsgGetTs (tsField : Nat → Byte) : Word32 :=
  (List.range respMsgTsLen).foldl
    (fun ts i => ts + ((tsField i).setWidth 32 <<< (i * 8))) 0

/-- What `print_distance` logs: the node, and the distance in millimetres as
`(int)(1000*distance)`. -/
structure Report (D : Type) where
  node : Nat
  distance : D
  millimetres : Int

def printDistance (targetNode : Nat) (s : Initiator D) : Report D :=
  ⟨targetNode, s.distance, intOfDouble (doubleMul (doubleOfInt 1000) s.distance)⟩

/-- `target_node++; if(target_node >= 4) target_node = 1;` -/
def nextNode (targetNode : Nat) : Nat := if targetNode + 1 ≥ 4 then 1 else targetNode + 1

/-- `ss_init_run` up to the wait loop: rotate the node, patch the frames, hand
the poll to the DW1000 and start it. -/
def startPoll (s : Initiator D) : Initiator D :=
  let targetNode := nextNode s.targetNode
  let s := targetNodeSelect targetNode { s with targetNode := targetNode }
  { s with txCount := s.txCount + 1 }

/-- The writes of `ss_init_run` in front of the wait loop. -/
def pollWrites (s : Initiator D) : List BusWrite :=
  dwtWrite32bitreg sysStatusId sysStatusTxfrs ::
    dwtWritetxdata s.txPollMsg 0 ++ dwtWritetxfctrl 12 0 1 :: dwtStarttxResponseExpected

/-- `while (!((status_reg = dwt_read32bitreg(SYS_STATUS_ID)) & mask))`. -/
def waitStatus (status : List Word32) : Option Word32 := firstHit waitMask status

/-- The receive buffer once a good frame has been read, if it fits, and the
sequence number blanked. -/
def receivedBuffer (radio : Radio) (rxBuffer : Buffer 20) : Buffer 20 :=
  Function.update
    (if radio.frameLen ≤ rxBufLen then overlay rxBuffer radio.frameLen radio.rxBuffer
      else rxBuffer) 2 0

def readFrame (radio : Radio) (s : Initiator D) : Initiator D :=
  { s with rxBuffer := receivedBuffer radio s.rxBuffer }

/-- The readings the inner block of `ss_init_run` collects. -/
def readRanging (radio : Radio) (s : Initiator D) : Ranging where
  pollTxTs := dwtReadtxtimestamplo32 radio.txTime
  respRxTs := dwtReadrxtimestamplo32 radio.rxTime
  carrierIntegrator := dwtReadcarrierintegrator radio.carrierInt
  pollRxTs := respMsgGetTs (bytesAt s.rxBuffer respMsgPollRxTsIdx)
  respTxTs := respMsgGetTs (bytesAt s.rxBuffer respMsgRespTxTsIdx)

def storeRange (r : Ranging) (s : Initiator D) : Initiator D :=
  { s with
    rxCount := s.rxCount + 1
    tof := r.tof D
    distanceUncal := r.distanceUncal D
    distance := r.distance D }

/-- The header check and what follows from it. -/
def checkFrame (radio : Radio) (s : Initiator D) : Option Ranging × Initiator D :=
  if SameBytes allMsgCommonLen s.rxBuffer s.rxRespMsg then
    let r := readRanging radio s
    (some r, storeRange r s)
  else (none, s)

/-- What one call of `ss_init_run` does apart from its effect on the state. -/
structure Exchange (D : Type) where
  node : Nat
  txFrame : Buffer 12
  respTemplate : Buffer 20
  pollWrites : List BusWrite
  statusWord : Word32
  ranging : Option Ranging
  report : Option (Report D)
  ackWrites : List BusWrite

/-- The sequence number the poll went out with. -/
def Exchange.frameSeqNb (x : Exchange D) : Byte := x.txFrame 2

/-- `ss_init_run` behind the wait loop that ended on `status`. -/
def finishRun (radio : Radio) (status : Word32) (s : Initiator D) : Exchange D × Initiator D :=
  let exchange : Exchange D :=
    ⟨s.targetNode, s.txPollMsg, s.rxRespMsg, pollWrites s, status, none, none, []⟩
  let s := frameIncr s.targetNode { s with statusReg := status }
  if status &&& sysStatusRxfcg ≠ 0 then
    let checked := checkFrame radio (readFrame radio s)
    ({ exchange with
        ranging := checked.1
        report := some (printDistance checked.2.targetNode checked.2)
        ackWrites := [dwtWrite32bitreg sysStatusId sysStatusRxfcg] }, checked.2)
  else
    ({ exchange with
        ackWrites := dwtWrite32bitreg sysStatusId (sysStatusAllRxTo ||| sysStatusAllRxErr) ::
          dwtRxreset }, s)

def ssInitRun (s : Initiator D) (radio : Radio) : Option (Exchange D × Initiator D) :=
  (waitStatus radio.status).map fun status => finishRun radio status (startPoll s)

/-- `func4`, the scheduled event of key `3`: three calls of `ss_init_run`. -/
def func4 (s : Initiator D) (first second third : Radio) :
    List (Call (Initiator D) Radio (Exchange D)) :=
  calls ssInitRun s [first, second, third]

/-! What each phase leaves alone. -/

theorem frameIncr_eq (n : Nat) (s : Initiator D) :
    frameIncr n s = { s with
      frameSeqNb1 := (frameIncr n s).frameSeqNb1
      frameSeqNb2 := (frameIncr n s).frameSeqNb2
      frameSeqNb3 := (frameIncr n s).frameSeqNb3 } := by
  unfold frameIncr
  split <;> rfl

/-- The counters do not look at the status copy. -/
theorem frameIncr_status (n : Nat) (s : Initiator D) (status : Word32) :
    frameIncr n { s with statusReg := status } =
      { frameIncr n s with statusReg := status } := by
  unfold frameIncr
  split <;> rfl

theorem checkFrame_accepted {radio : Radio} {s : Initiator D}
    (h : SameBytes allMsgCommonLen s.rxBuffer s.rxRespMsg) :
    checkFrame radio s = (some (readRanging radio s), storeRange (readRanging radio s) s) := by
  simp only [checkFrame, if_pos h]

theorem checkFrame_rejected {radio : Radio} {s : Initiator D}
    (h : ¬ SameBytes allMsgCommonLen s.rxBuffer s.rxRespMsg) :
    checkFrame radio s = (none, s) := by
  simp only [checkFrame, if_neg h]

/-- A call that returns is the wait loop followed by `finishRun`. -/
theorem ssInitRun_eq_some {s s' : Initiator D} {radio : Radio} {x : Exchange D} :
    ssInitRun s radio = some (x, s') ↔
      ∃ status, waitStatus radio.status = some status ∧
        finishRun radio status (startPoll s) = (x, s') := by
  simp only [ssInitRun, Option.map_eq_some_iff]

/-- Neither template, nor the node, nor the poll that went out depends on the
outcome, and the counters advance as `frame_incr` says on every outcome. -/
theorem finishRun_frame (radio : Radio) (status : Word32) (s : Initiator D) :
    let (x, s') := finishRun radio status s
    (x.node = s.targetNode ∧ x.txFrame = s.txPollMsg ∧ x.respTemplate = s.rxRespMsg ∧
      x.pollWrites = pollWrites s ∧ x.statusWord = status) ∧
    (s'.targetNode = s.targetNode ∧ s'.txPollMsg = s.txPollMsg ∧ s'.rxRespMsg = s.rxRespMsg) ∧
    s'.frameSeqNb1 = (frameIncr s.targetNode s).frameSeqNb1 ∧
    s'.frameSeqNb2 = (frameIncr s.targetNode s).frameSeqNb2 ∧
    s'.frameSeqNb3 = (frameIncr s.targetNode s).frameSeqNb3 := by
  unfold finishRun
  rw [frameIncr_status, frameIncr_eq]
  by_cases hgood : status &&& sysStatusRxfcg = 0
  · simp [hgood]
  · simp only [hgood, ne_eq, not_false_eq_true, if_true]
    unfold checkFrame
    split <;> simp [readFrame, storeRange]

/-- A range is taken exactly of a good frame whose header is that of the template. -/
theorem finishRun_checked (radio : Radio) (status : Word32) (s : Initiator D) :
    let (x, s') := finishRun radio status s
    x.ranging.isSome ↔
      status &&& sysStatusRxfcg ≠ 0 ∧ SameBytes allMsgCommonLen s'.rxBuffer x.respTemplate := by
  unfold finishRun
  rw [frameIncr_status, frameIncr_eq]
  by_cases hgood : status &&& sysStatusRxfcg = 0
  · simp [hgood]
  · simp only [hgood, ne_eq, not_false_eq_true, if_true, true_and]
    unfold checkFrame
    split
    next hsame => exact iff_of_true rfl hsame
    next hdiffers => exact iff_of_false Bool.false_ne_true hdiffers

end Program

end Breadcrumb.Uwb
