import Breadcrumb.Machine.WrappedClock
import Breadcrumb.Uwb.Freshness
import Breadcrumb.Uwb.RoundTrip

/-!
The way of the four 40-bit timestamps of an exchange into `rtd_init` and
`rtd_resp`. The initiator reads its own two from registers, those of the
responder arrive as bytes; all four are cut to 32 bits and subtracted, so only
the differences on either clock matter.
-/

namespace Breadcrumb.Uwb

open Breadcrumb.Machine

variable {F D : Type} [CFloat F] [CDouble F D]

/-- A timestamp field holds the low 32 bits of a timestamp, least significant byte
first. -/
def CarriesTs (tsField : Nat → Byte) (ts : BitVec 40) : Prop :=
  ∀ i, i < respMsgTsLen → tsField i = (ts >>> (i * 8)).setWidth 8

theorem respMsgGetTs_of_carries {tsField : Nat → Byte} {ts : BitVec 40}
    (h : CarriesTs tsField ts) : respMsgGetTs tsField = ts.setWidth 32 := by
  rw [respMsgGetTs_congr h]
  apply BitVec.eq_of_toNat_eq
  simp only [respMsgGetTs, respMsgTsLen, List.range, List.range.loop, List.foldl_cons,
    List.foldl_nil]
  simp [Nat.shiftLeft_eq, Nat.shiftRight_eq_div_pow]
  omega

/-- The buffer the header check and the timestamps are read from. -/
def responseBuffer (radio : Radio) (s : Initiator D) : Buffer 20 :=
  receivedBuffer radio s.rxBuffer

/-- A call that takes the range `r` from an accepted response, between a poll sent
at `t1` and received at `t2` and a response sent at `t3` and received at `t4`. -/
structure Measured (t1 t2 t3 t4 : BitVec 40) (s : Initiator D) (radio : Radio) (x : Exchange D)
    (s' : Initiator D) (r : Ranging) : Prop where
  run : ssInitRun s radio = some (x, s')
  accepted : x.ranging = some r
  pollTx : radio.txTime = t1
  pollRx : CarriesTs (bytesAt (responseBuffer radio s) respMsgPollRxTsIdx) t2
  respTx : CarriesTs (bytesAt (responseBuffer radio s) respMsgRespTxTsIdx) t3
  respRx : radio.rxTime = t4

omit [CFloat F] [CDouble F D] in
/-- In a frame of the right length these are the bytes that were sent. -/
theorem carriesTs_of_complete {radio : Radio} (h : radio.CompleteFrame) (s : Initiator D)
    {idx : Nat} (hidx : respMsgPollRxTsIdx ≤ idx ∧ idx ≤ respMsgRespTxTsIdx) {ts : BitVec 40}
    (hts : CarriesTs (fun i => radio.rxBuffer (idx + i)) ts) :
    CarriesTs (bytesAt (responseBuffer radio s) idx) ts := by
  intro i hi
  rw [responseBuffer, bytesAt_of_complete h _ hidx hi]
  exact hts i hi

theorem Measured.rtd {t1 t2 t3 t4 : BitVec 40} {s s' : Initiator D} {radio : Radio}
    {x : Exchange D} {r : Ranging} (h : Measured t1 t2 t3 t4 s radio x s' r) :
    r.rtdInit = signedDiff 32 t4 t1 ∧ r.rtdResp = signedDiff 32 t3 t2 := by
  obtain ⟨hr, _⟩ := ssInitRun_ranging h.run h.accepted
  rw [hr, readRanging_rtdInit, h.respRx, h.pollTx]
  refine ⟨rfl, ?_⟩
  have hpoll := respMsgGetTs_of_carries h.pollRx
  have hresp := respMsgGetTs_of_carries h.respTx
  rw [signedDiff, ← hpoll, ← hresp]
  rfl

theorem Measured.carrierIntegrator {t1 t2 t3 t4 : BitVec 40} {s s' : Initiator D} {radio : Radio}
    {x : Exchange D} {r : Ranging} (h : Measured t1 t2 t3 t4 s radio x s' r) :
    r.carrierIntegrator = dwtReadcarrierintegrator radio.carrierInt := by
  rw [(ssInitRun_ranging h.run h.accepted).1]
  rfl

theorem Measured.stored {t1 t2 t3 t4 : BitVec 40} {s s' : Initiator D} {radio : Radio}
    {x : Exchange D} {r : Ranging} (h : Measured t1 t2 t3 t4 s radio x s' r) : Stored r s s' :=
  (ssInitRun_ranging h.run h.accepted).2

/-- The formula looks at the two differences and the integrator only. -/
theorem tof_congr {r r' : Ranging} (hinit : r'.rtdInit = r.rtdInit)
    (hresp : r'.rtdResp = r.rtdResp) (hcarrier : r'.carrierIntegrator = r.carrierIntegrator) :
    r'.tof D = r.tof D := by
  unfold Ranging.tof Ranging.clockOffsetRatio
  rw [hinit, hresp, hcarrier]

theorem distance_congr {r r' : Ranging} (h : r'.tof D = r.tof D) :
    r'.distanceUncal D = r.distanceUncal D ∧ r'.distance D = r.distance D := by
  unfold Ranging.distance Ranging.distanceUncal
  rw [h]
  exact ⟨rfl, rfl⟩

/-- The pipeline from four timestamps to the range. Both differences are the
residues of the true ones, and an exchange measured on clocks with any other
origins gives the same range. -/
theorem ssInitRun_timestamps {t1 t2 t3 t4 : BitVec 40} {s s' : Initiator D} {radio : Radio}
    {x : Exchange D} {r : Ranging} (h : Measured t1 t2 t3 t4 s radio x s' r) :
    SignedResidue 32 r.rtdInit (t4.toNat - t1.toNat) ∧
    SignedResidue 32 r.rtdResp (t3.toNat - t2.toNat) ∧
    ∀ (a b : BitVec 40) (q q' : Initiator D) (radio' : Radio) (x' : Exchange D) (r' : Ranging),
      Measured (t1 + a) (t2 + b) (t3 + b) (t4 + a) q radio' x' q' r' →
      r'.rtdInit = r.rtdInit ∧ r'.rtdResp = r.rtdResp ∧
        (dwtReadcarrierintegrator radio'.carrierInt = dwtReadcarrierintegrator radio.carrierInt →
          q'.tof = s'.tof ∧ q'.distanceUncal = s'.distanceUncal ∧ q'.distance = s'.distance) := by
  obtain ⟨hinit, hresp⟩ := h.rtd
  rw [hinit, hresp]
  refine ⟨signedDiff_residue 32 t4 t1, signedDiff_residue 32 t3 t2, ?_⟩
  intro a b q q' radio' x' r' h'
  obtain ⟨hinit', hresp'⟩ := h'.rtd
  rw [signedDiff_add (by decide)] at hinit' hresp'
  refine ⟨hinit', hresp', ?_⟩
  intro hcarrier
  have htof : r'.tof D = r.tof D := by
    apply tof_congr
    · rw [hinit', hinit]
    · rw [hresp', hresp]
    · rw [h'.carrierIntegrator, h.carrierIntegrator, hcarrier]
  obtain ⟨huncal, hdistance⟩ := distance_congr htof
  obtain ⟨_, hs, hsUncal, hsDistance⟩ := h.stored
  obtain ⟨_, hq, hqUncal, hqDistance⟩ := h'.stored
  rw [hs, hsUncal, hsDistance, hq, hqUncal, hqDistance]
  exact ⟨htof, huncal, hdistance⟩

/-- A response of Pumpernickel with the stamps `t2` and `t3`. -/
def stampedFrame (t2 t3 : BitVec 40) (i : Nat) : Byte :=
  if i < 10 then bytesAt (respTemplate 1) 0 i
  else if i < 14 then (t2 >>> ((i - 10) * 8)).setWidth 8
  else if i < 18 then (t3 >>> ((i - 14) * 8)).setWidth 8
  else 0

def stampedRadio (t1 t2 t3 t4 : BitVec 40) : Radio :=
  { responseRadio 1 with rxBuffer := stampedFrame t2 t3, txTime := t1, rxTime := t4 }

theorem stampedRadio_complete (t1 t2 t3 t4 : BitVec 40) :
    (stampedRadio t1 t2 t3 t4).CompleteFrame := by
  change (responseRadio 1).CompleteFrame
  decide

theorem exists_measured {t1 t2 t3 t4 : BitVec 40}
    (h : ((ssInitRun (powerOn : Initiator ℚ) (stampedRadio t1 t2 t3 t4)).bind fun result =>
      result.1.ranging).isSome = true) :
    ∃ x s' r, Measured t1 t2 t3 t4 (powerOn : Initiator ℚ) (stampedRadio t1 t2 t3 t4) x s' r := by
  obtain ⟨x, s', r, hrun, hr, _⟩ := exists_ranging (fun _ => True) (by simpa using h)
  have hcomplete := stampedRadio_complete t1 t2 t3 t4
  refine ⟨x, s', r, hrun, hr, rfl, ?_, ?_, rfl⟩
  · apply carriesTs_of_complete hcomplete _ (by decide)
    intro i hi
    unfold respMsgTsLen at hi
    have hfront : ¬ 10 + i < 10 := by omega
    have hfield : 10 + i < 14 := by omega
    simp [stampedRadio, stampedFrame, respMsgPollRxTsIdx, hfront, hfield]
  · apply carriesTs_of_complete hcomplete _ (by decide)
    intro i hi
    unfold respMsgTsLen at hi
    have hfront : ¬ 14 + i < 10 := by omega
    have hfield : ¬ 14 + i < 14 := by omega
    have hlast : 14 + i < 18 := by omega
    simp [stampedRadio, stampedFrame, respMsgRespTxTsIdx, hfront, hfield, hlast]

/-- The initiator's clock rolls over between poll and response, the low word of the
responder's does; then the same exchange with both clocks elsewhere. -/
theorem ssInitRun_timestamps_rollover :
    ∃ (x x' : Exchange ℚ) (s s' : Initiator ℚ) (r r' : Ranging),
      Measured 0xFFFFFFFFF0 0x00FFFFFFC0 0x0100000140 0x00000001F0 powerOn
        (stampedRadio 0xFFFFFFFFF0 0x00FFFFFFC0 0x0100000140 0x00000001F0) x s r ∧
      Measured (0xFFFFFFFFF0 + 0x10) (0x00FFFFFFC0 + 0x7F00000000) (0x0100000140 + 0x7F00000000)
        (0x00000001F0 + 0x10) powerOn
        (stampedRadio (0xFFFFFFFFF0 + 0x10) (0x00FFFFFFC0 + 0x7F00000000)
          (0x0100000140 + 0x7F00000000) (0x00000001F0 + 0x10)) x' s' r' ∧
      r'.rtdInit = r.rtdInit ∧ s'.distance = s.distance := by
  obtain ⟨x, s, r, h⟩ := exists_measured (by decide +kernel :
    ((ssInitRun (powerOn : Initiator ℚ) (stampedRadio 0xFFFFFFFFF0 0x00FFFFFFC0 0x0100000140
      0x00000001F0)).bind fun result => result.1.ranging).isSome = true)
  obtain ⟨x', s', r', h'⟩ := exists_measured (by decide +kernel :
    ((ssInitRun (powerOn : Initiator ℚ) (stampedRadio (0xFFFFFFFFF0 + 0x10)
      (0x00FFFFFFC0 + 0x7F00000000) (0x0100000140 + 0x7F00000000)
      (0x00000001F0 + 0x10))).bind fun result => result.1.ranging).isSome = true)
  obtain ⟨hinit, _, hrange⟩ := (ssInitRun_timestamps h).2.2 _ _ _ _ _ _ _ h'
  exact ⟨x, x', s, s', r, r', h, h', hinit, (hrange rfl).2.2⟩

end Breadcrumb.Uwb
