import Breadcrumb.Machine.WrappedClock
import Breadcrumb.Uwb.Freshness

/-!
The round-trip time of the initiator. Both 40-bit timestamps are read as 32-bit
words, subtracted, and the difference is taken as an `int32`; the elapsed time
is bounded by how long the receiver listens.
-/

namespace Breadcrumb.Uwb

open Breadcrumb.Machine

variable {F D : Type} [CFloat F] [CDouble F D]

def pollTxToRespRxDlyUus : Word32 := 100

def uusToDwtTime : Nat := 65536

/-- The receive window `breadcrumb_dwm_init` sets, whatever was there. -/
def breadcrumbDwmInit (w : RxWindow) : RxWindow :=
  dwtSetrxtimeout 65000 (dwtSetrxaftertxdelay pollTxToRespRxDlyUus w)

/-- The latest reception after a poll, in device time units: delay and timeout
both count UWB microseconds. Without the timeout there is no bound. -/
def receiveWindow (w : RxWindow) : Option Nat :=
  if w.rxWaitTimeout then
    some (((w.ackRespT &&& ackRespTW4rTimMask).toNat + w.rxFwto.toNat) * uusToDwtTime)
  else none

theorem breadcrumbDwmInit_receiveWindow (w : RxWindow) :
    receiveWindow (breadcrumbDwmInit w) = some (65100 * 65536) := by
  have hdelay : ((w.ackRespT &&& ~~~ackRespTW4rTimMask) |||
      (pollTxToRespRxDlyUus &&& ackRespTW4rTimMask)) &&& ackRespTW4rTimMask = 100 := by
    have hlow := clearOnes_and_self w.ackRespT ackRespTW4rTimMask
    rw [clearOnes] at hlow
    rw [or_and_of_clear hlow]
    decide
  have htimeout : (65000 : Word16).toNat > 0 := by decide
  simp only [breadcrumbDwmInit, dwtSetrxtimeout, if_pos htimeout, receiveWindow,
    dwtSetrxaftertxdelay, hdelay]
  rfl

omit [CFloat F] [CDouble F D] in
theorem readRanging_rtdInit (radio : Radio) (s : Initiator D) :
    (readRanging radio s).rtdInit = signedDiff 32 radio.rxTime radio.txTime := by
  rw [Ranging.rtdInit, readRanging, dwtReadtxtimestamplo32, dwtReadrxtimestamplo32,
    dwtRead32bitreg_eq, dwtRead32bitreg_eq, signedDiff]

omit [CFloat F] [CDouble F D] in
/-- Only the conversion to `int32` can lose anything of the elapsed time. -/
theorem rtdInit_eq_bmod {radio : Radio} {elapsed : Nat} (h : elapsed < 2 ^ 40)
    (hrx : radio.rxTime = radio.txTime + BitVec.ofNat 40 elapsed) (s : Initiator D) :
    (readRanging radio s).rtdInit = (elapsed : Int).bmod (2 ^ 32) := by
  have horigin := signedDiff_add (by decide : 32 ≤ 40) (BitVec.ofNat 40 elapsed) 0 radio.txTime
  rw [BitVec.add_comm, ← hrx, show 0 + radio.txTime = radio.txTime from BitVec.zero_add _] at horigin
  rw [readRanging_rtdInit, horigin, signedDiff_eq_bmod, BitVec.toNat_ofNat, Nat.mod_eq_of_lt h]
  simp

theorem bmod_eq_self_iff {elapsed : Nat} (h : elapsed < 2 ^ 32) :
    (elapsed : Int).bmod (2 ^ 32) = elapsed ↔ elapsed < 2 ^ 31 := by
  rw [Int.bmod_def]
  split <;> omega

/-- Within the window the program opens, the round trip is exact exactly up to
half the range of the 32-bit subtraction. -/
theorem rtdInit_exact_iff (w : RxWindow) (s s' : Initiator D) (radio : Radio) (x : Exchange D)
    (r : Ranging) (elapsed : Nat)
    (hrun : ssInitRun s radio = some (x, s')) (hranging : x.ranging = some r)
    (hrx : radio.rxTime = radio.txTime + BitVec.ofNat 40 elapsed)
    (hwindow : ∀ bound ∈ receiveWindow (breadcrumbDwmInit w), elapsed ≤ bound) :
    r.rtdInit = elapsed ↔ elapsed < 2 ^ 31 := by
  obtain ⟨hr, _⟩ := ssInitRun_ranging hrun hranging
  have hbound := hwindow _ (breadcrumbDwmInit_receiveWindow w)
  rw [hr, rtdInit_eq_bmod (by omega) hrx]
  exact bmod_eq_self_iff (by omega)

/-- A response `elapsed` device time units behind a poll sent at `txTime`. -/
def replyAfter (txTime : BitVec 40) (elapsed : Nat) : Radio :=
  { responseRadio 1 with txTime := txTime, rxTime := txTime + BitVec.ofNat 40 elapsed }

/-- A reply after `2 ^ 31` units, half-way through the window, is read as a
negative round trip. -/
theorem rtdInit_replyAfter :
    ¬ ∀ (w : RxWindow) (s s' : Initiator ℚ) (radio : Radio) (x : Exchange ℚ) (r : Ranging)
      (elapsed : Nat), ssInitRun s radio = some (x, s') → x.ranging = some r →
        radio.rxTime = radio.txTime + BitVec.ofNat 40 elapsed →
        (∀ bound ∈ receiveWindow (breadcrumbDwmInit w), elapsed ≤ bound) →
        r.rtdInit = elapsed := by
  intro hexact
  obtain ⟨x, s', r, hrun, hr, hnegative⟩ := exists_ranging (fun r => r.rtdInit = -2 ^ 31)
    (by decide +kernel : ((ssInitRun (powerOn : Initiator ℚ) (replyAfter 0 (2 ^ 31))).bind
      fun result => result.1.ranging).any _ = true)
  have hwindow : ∀ bound ∈ receiveWindow (breadcrumbDwmInit ⟨0, 0, false⟩), 2 ^ 31 ≤ bound := by
    decide
  have heq := hexact ⟨0, 0, false⟩ powerOn s' _ x r (2 ^ 31) hrun hr rfl hwindow
  rw [hnegative] at heq
  exact absurd heq (by decide)

/-- A reply after a millisecond, across a wrap of the timestamps. -/
theorem rtdInit_exact_iff_replyAfter :
    ∃ x s' r, ssInitRun (powerOn : Initiator ℚ) (replyAfter 0xFFFFFFFFFF 65536000) =
      some (x, s') ∧ x.ranging = some r ∧ r.rtdInit = 65536000 := by
  obtain ⟨x, s', r, hrun, hr, _⟩ := exists_ranging (fun _ => True)
    (by decide +kernel : ((ssInitRun (powerOn : Initiator ℚ)
      (replyAfter 0xFFFFFFFFFF 65536000)).bind fun result => result.1.ranging).any _ = true)
  have hwindow : ∀ bound ∈ receiveWindow (breadcrumbDwmInit ⟨0, 0, false⟩), 65536000 ≤ bound := by
    decide
  refine ⟨x, s', r, hrun, hr, ?_⟩
  exact (rtdInit_exact_iff ⟨0, 0, false⟩ powerOn s' _ x r 65536000 hrun hr rfl hwindow).mpr
    (by decide)

end Breadcrumb.Uwb
