import Breadcrumb.Uwb.Schedule

/-!
Which calls of `ss_init_run` take a range, from which bytes, and what they
report. The receive buffer survives from call to call and is overwritten only
as far as the frame reaches, so the header check can pass on bytes that another
call received.
-/

namespace Breadcrumb.Uwb

open Breadcrumb.Machine

variable {F D : Type} [CFloat F] [CDouble F D]

abbrev RangingCall (D : Type) := Call (Initiator D) Radio (Exchange D)

/-- The wait loop ends on a word with SYS_STATUS_RXFCG. -/
def Radio.GoodFrame (radio : Radio) : Prop :=
  ∃ word ∈ waitStatus radio.status, word &&& sysStatusRxfcg ≠ 0

/-- Header and both timestamps are there, and the frame fits `rx_buffer`. -/
def Radio.CompleteFrame (radio : Radio) : Prop :=
  respMsgRespTxTsIdx + respMsgTsLen ≤ radio.frameLen ∧ radio.frameLen ≤ rxBufLen

/-- The bytes of the frame itself are those expected from node `n`, the
sequence number apart. -/
def Radio.OwnHeader (radio : Radio) (n : Nat) : Prop :=
  ∀ i : Fin 20, i.val < allMsgCommonLen → i.val ≠ allMsgSnIdx →
    radio.rxBuffer i.val = respTemplate n i

def Radio.Accepted (radio : Radio) (n : Nat) : Prop :=
  radio.GoodFrame ∧ radio.CompleteFrame ∧ radio.OwnHeader n

instance (radio : Radio) : Decidable radio.GoodFrame :=
  decidable_of_iff
    ((waitStatus radio.status).any fun word => word &&& sysStatusRxfcg ≠ 0)
    (by simp [Radio.GoodFrame, Option.any_eq_true])

instance (radio : Radio) : Decidable radio.CompleteFrame :=
  inferInstanceAs (Decidable (_ ∧ _))

instance (radio : Radio) (n : Nat) : Decidable (radio.OwnHeader n) :=
  inferInstanceAs (Decidable (∀ i : Fin 20, i.val < allMsgCommonLen → i.val ≠ allMsgSnIdx →
    radio.rxBuffer i.val = respTemplate n i))

instance (radio : Radio) (n : Nat) : Decidable (radio.Accepted n) :=
  inferInstanceAs (Decidable (_ ∧ _ ∧ _))

/-- The readings of one call with the timestamps taken from its own frame. -/
def ownRanging (radio : Radio) : Ranging where
  pollTxTs := dwtReadtxtimestamplo32 radio.txTime
  respRxTs := dwtReadrxtimestamplo32 radio.rxTime
  carrierIntegrator := dwtReadcarrierintegrator radio.carrierInt
  pollRxTs := respMsgGetTs fun i => radio.rxBuffer (respMsgPollRxTsIdx + i)
  respTxTs := respMsgGetTs fun i => radio.rxBuffer (respMsgRespTxTsIdx + i)

structure Stored (r : Ranging) (s s' : Initiator D) : Prop where
  rxCount : s'.rxCount = s.rxCount + 1
  tof : s'.tof = r.tof D
  distanceUncal : s'.distanceUncal = r.distanceUncal D
  distance : s'.distance = r.distance D

structure Unchanged (s s' : Initiator D) : Prop where
  rxCount : s'.rxCount = s.rxCount
  tof : s'.tof = s.tof
  distanceUncal : s'.distanceUncal = s.distanceUncal
  distance : s'.distance = s.distance

def polledNode (c : RangingCall D) : Nat := nextNode c.before.targetNode

/-- `rx_buffer` when the header check of the call looks at it. -/
def checkedBuffer (c : RangingCall D) : Buffer 20 := receivedBuffer c.input c.before.rxBuffer

/-- The header check of the call passes, on whatever bytes `rx_buffer` holds. -/
def CheckPassed (c : RangingCall D) : Prop :=
  c.input.GoodFrame ∧ SameBytes allMsgCommonLen (checkedBuffer c) (respTemplate (polledNode c))

instance (c : RangingCall D) : Decidable (CheckPassed c) := inferInstanceAs (Decidable (_ ∧ _))

/-- The readings the call takes if the header check passes. -/
def checkedRanging (c : RangingCall D) : Ranging :=
  readRanging c.input (readFrame c.input c.before)

/-- A range is stored exactly for an accepted frame, from that frame. -/
def Fresh (c : RangingCall D) : Prop :=
  (c.input.Accepted (polledNode c) → Stored (ownRanging c.input) c.before c.after) ∧
    (¬ c.input.Accepted (polledNode c) → Unchanged c.before c.after)

/-- The header check passes although the frame of this call is too short or too
long to have supplied what is read. -/
def StaleCheck (c : RangingCall D) : Prop := CheckPassed c ∧ ¬ c.input.CompleteFrame

open CDouble in
def reportOf (n : Nat) (distance : D) : Report D :=
  ⟨n, distance, intOfDouble (doubleMul (doubleOfInt 1000) distance)⟩

instance (c : RangingCall D) : Decidable (StaleCheck c) := inferInstanceAs (Decidable (_ ∧ _))

/-- Whatever the call reports is the range `r` under the node it polled, and
`passed` is the reason. -/
def Attributed (passed : Prop) (r : Ranging) (c : RangingCall D) : Prop :=
  ∀ report ∈ c.output.report, passed ∧ report = reportOf (polledNode c) (r.distance D)

/-- The three ways a call can end. -/
inductive Outcome (c : RangingCall D) : Prop where
  | silent (quiet : ¬ c.input.GoodFrame) (kept : Unchanged c.before c.after)
      (report : c.output.report = none)
  | rejected (good : c.input.GoodFrame) (failed : ¬ CheckPassed c)
      (kept : Unchanged c.before c.after)
      (report : c.output.report = some (reportOf (polledNode c) c.before.distance))
  | ranged (good : c.input.GoodFrame) (passed : CheckPassed c)
      (stored : Stored (checkedRanging c) c.before c.after)
      (report : c.output.report =
        some (reportOf (polledNode c) ((checkedRanging c).distance D)))

/-- The part of the state that only the header check may change. -/
structure SameReadings (s s' : Initiator D) : Prop where
  rxBuffer : s'.rxBuffer = s.rxBuffer
  kept : Unchanged s s'

omit [CFloat F] [CDouble F D] in
theorem selectAddress_sameReadings (a b seq : Byte) (s : Initiator D) :
    SameReadings s (selectAddress a b seq s) := ⟨rfl, rfl, rfl, rfl, rfl⟩

omit [CFloat F] [CDouble F D] in
theorem targetNodeSelect_sameReadings (n : Nat) (s : Initiator D) :
    SameReadings s (targetNodeSelect n s) := by
  unfold targetNodeSelect
  split
  · apply selectAddress_sameReadings
  · split
    · apply selectAddress_sameReadings
    · split
      · apply selectAddress_sameReadings
      · exact ⟨rfl, rfl, rfl, rfl, rfl⟩

omit [CFloat F] [CDouble F D] in
theorem startPoll_sameReadings (s : Initiator D) : SameReadings s (startPoll s) := by
  obtain ⟨hbuffer, hcount, htof, huncal, hdistance⟩ := targetNodeSelect_sameReadings
    (nextNode s.targetNode) { s with targetNode := nextNode s.targetNode }
  exact ⟨hbuffer, hcount, htof, huncal, hdistance⟩

/-- `ss_init_run` behind the wait loop, in front of the branch on the status. -/
def counted (status : Word32) (s : Initiator D) : Initiator D :=
  frameIncr (startPoll s).targetNode { startPoll s with statusReg := status }

omit [CFloat F] [CDouble F D] in
theorem counted_sameReadings (status : Word32) (s : Initiator D) :
    SameReadings s (counted status s) := by
  obtain ⟨hbuffer, hcount, htof, huncal, hdistance⟩ := startPoll_sameReadings s
  rw [counted, frameIncr_eq]
  exact ⟨hbuffer, hcount, htof, huncal, hdistance⟩

omit [CFloat F] in
theorem counted_target {k : Nat} {s : Initiator D} (h : Rotation k s) (status : Word32) :
    (counted status s).targetNode = nextNode s.targetNode ∧
      (counted status s).rxRespMsg = respTemplate (nextNode s.targetNode) := by
  have hpolled := startPoll_polled h
  rw [counted, frameIncr_eq, nextNode_of_rotation h]
  exact ⟨hpolled.targetNode, hpolled.respMsg⟩

theorem goodFrame_of_waitStatus {radio : Radio} {status : Word32}
    (h : waitStatus radio.status = some status) :
    radio.GoodFrame ↔ status &&& sysStatusRxfcg ≠ 0 := by
  simp [Radio.GoodFrame, h]

theorem finishRun_quiet {radio : Radio} {status : Word32} {s s' : Initiator D} {x : Exchange D}
    (hrxfcg : status &&& sysStatusRxfcg = 0)
    (h : finishRun radio status (startPoll s) = (x, s')) :
    s' = counted status s ∧ x.ranging = none ∧ x.report = none := by
  unfold finishRun at h
  rw [if_neg (not_not_intro hrxfcg)] at h
  cases h
  exact ⟨rfl, rfl, rfl⟩

theorem finishRun_good {radio : Radio} {status : Word32} {s s' : Initiator D} {x : Exchange D}
    (hrxfcg : status &&& sysStatusRxfcg ≠ 0)
    (h : finishRun radio status (startPoll s) = (x, s')) :
    s' = (checkFrame radio (readFrame radio (counted status s))).2 ∧
      x.ranging = (checkFrame radio (readFrame radio (counted status s))).1 ∧
      x.report = some (printDistance s'.targetNode s') := by
  unfold finishRun at h
  rw [if_pos hrxfcg] at h
  cases h
  exact ⟨rfl, rfl, rfl⟩

omit [CFloat F] [CDouble F D] in
theorem readFrame_counted (radio : Radio) (status : Word32) (s : Initiator D) :
    (readFrame radio (counted status s)).rxBuffer = receivedBuffer radio s.rxBuffer := by
  rw [readFrame, (counted_sameReadings status s).rxBuffer]

omit [CFloat F] [CDouble F D] in
theorem readRanging_counted (radio : Radio) (status : Word32) (s : Initiator D) :
    readRanging radio (readFrame radio (counted status s)) =
      readRanging radio (readFrame radio s) := by
  unfold readRanging
  rw [readFrame_counted]
  rfl

/-- A call that takes a range takes it from the buffer as it is after the read,
and stores what follows from it. -/
theorem ssInitRun_ranging {s s' : Initiator D} {radio : Radio} {x : Exchange D} {r : Ranging}
    (hrun : ssInitRun s radio = some (x, s')) (hranging : x.ranging = some r) :
    r = readRanging radio (readFrame radio s) ∧ Stored r s s' := by
  obtain ⟨status, _, hfinish⟩ := ssInitRun_eq_some.mp hrun
  by_cases hrxfcg : status &&& sysStatusRxfcg = 0
  · obtain ⟨_, hnone, _⟩ := finishRun_quiet hrxfcg hfinish
    rw [hnone] at hranging
    cases hranging
  · obtain ⟨hafter, hchecked, _⟩ := finishRun_good hrxfcg hfinish
    rw [hchecked] at hranging
    by_cases hpass : SameBytes allMsgCommonLen (readFrame radio (counted status s)).rxBuffer
        (readFrame radio (counted status s)).rxRespMsg
    · rw [checkFrame_accepted hpass] at hafter hranging
      have hr := Option.some.inj hranging
      rw [hr] at hafter
      subst hafter
      refine ⟨hr.symm.trans (readRanging_counted radio status s), ?_, rfl, rfl, rfl⟩
      exact congrArg (· + 1) (counted_sameReadings status s).kept.rxCount
    · rw [checkFrame_rejected hpass] at hranging
      cases hranging

/-- What one call stores and reports, from any state the rotation reaches. -/
theorem ssInitRun_outcome {k : Nat} {s s' : Initiator D} {radio : Radio} {x : Exchange D}
    (h : Rotation k s) (hrun : ssInitRun s radio = some (x, s')) :
    Outcome ⟨s, radio, x, s'⟩ := by
  obtain ⟨status, hwait, hfinish⟩ := ssInitRun_eq_some.mp hrun
  obtain ⟨hnode, hresp⟩ := counted_target h status
  obtain ⟨_, hcount, htof, huncal, hdistance⟩ := counted_sameReadings status s
  have hgood := goodFrame_of_waitStatus hwait
  by_cases hrxfcg : status &&& sysStatusRxfcg = 0
  · obtain ⟨hafter, _, hreport⟩ := finishRun_quiet hrxfcg hfinish
    subst hafter
    refine .silent ?_ ⟨hcount, htof, huncal, hdistance⟩ hreport
    exact fun hframe => hgood.mp hframe hrxfcg
  · have hframe : radio.GoodFrame := hgood.mpr hrxfcg
    obtain ⟨hafter, _, hreport⟩ := finishRun_good hrxfcg hfinish
    have hread := readFrame_counted radio status s
    have htemplate : (readFrame radio (counted status s)).rxRespMsg =
        respTemplate (nextNode s.targetNode) := hresp
    by_cases hpass : SameBytes allMsgCommonLen (receivedBuffer radio s.rxBuffer)
        (respTemplate (nextNode s.targetNode))
    · have hsame := hpass
      rw [← hread, ← htemplate] at hsame
      rw [checkFrame_accepted hsame, readRanging_counted] at hafter
      subst hafter
      refine .ranged hframe ⟨hframe, hpass⟩ ⟨?_, rfl, rfl, rfl⟩ ?_
      · exact congrArg (· + 1) hcount
      · rw [hreport]
        exact congrArg (fun n => some (reportOf n
          ((readRanging radio (readFrame radio s)).distance D))) hnode
    · have hdiffer := hpass
      rw [← hread, ← htemplate] at hdiffer
      rw [checkFrame_rejected hdiffer] at hafter
      subst hafter
      refine .rejected hframe (fun hpassed => hpass hpassed.2)
        ⟨hcount, htof, huncal, hdistance⟩ ?_
      rw [hreport]
      exact congrArg₂ (fun n d => some (reportOf n d)) hnode hdistance

theorem receivedBuffer_seq (radio : Radio) (buf : Buffer 20) :
    receivedBuffer radio buf 2 = 0 := by
  rw [receivedBuffer, Function.update_self]

/-- A frame that is long enough and fits supplies every byte that is read. -/
theorem receivedBuffer_of_complete {radio : Radio} (h : radio.CompleteFrame) (buf : Buffer 20)
    {i : Fin 20} (hi : i.val < respMsgRespTxTsIdx + respMsgTsLen)
    (hseq : i.val ≠ allMsgSnIdx) : receivedBuffer radio buf i = radio.rxBuffer i.val := by
  obtain ⟨hlong, hfits⟩ := h
  have hother : i ≠ 2 := fun heq => hseq (congrArg Fin.val heq)
  rw [receivedBuffer, Function.update_of_ne hother, if_pos hfits]
  exact overlay_of_lt (Nat.lt_of_lt_of_le hi hlong)

omit [CFloat F] [CDouble F D] in
theorem checkPassed_of_complete {c : RangingCall D} (h : c.input.CompleteFrame) :
    CheckPassed c ↔ c.input.Accepted (polledNode c) := by
  have hheader : SameBytes allMsgCommonLen (checkedBuffer c) (respTemplate (polledNode c)) ↔
      c.input.OwnHeader (polledNode c) := by
    constructor
    · intro hsame i hi hseq
      have hread : i.val < respMsgRespTxTsIdx + respMsgTsLen := Nat.lt_of_lt_of_le hi (by decide)
      rw [← receivedBuffer_of_complete h c.before.rxBuffer hread hseq]
      exact hsame i hi
    · intro hown i hi
      rcases eq_or_ne i.val allMsgSnIdx with hseq | hseq
      · have hindex : i = 2 := Fin.ext hseq
        rw [hindex]
        exact receivedBuffer_seq c.input c.before.rxBuffer
      · have hread : i.val < respMsgRespTxTsIdx + respMsgTsLen :=
          Nat.lt_of_lt_of_le hi (by decide)
        rw [checkedBuffer, receivedBuffer_of_complete h _ hread hseq]
        exact hown i hi hseq
  unfold CheckPassed Radio.Accepted
  rw [hheader]
  simp only [h, true_and]

theorem respMsgGetTs_congr {a b : Nat → Byte} (h : ∀ i, i < respMsgTsLen → a i = b i) :
    respMsgGetTs a = respMsgGetTs b := by
  unfold respMsgGetTs respMsgTsLen
  simp only [List.range, List.range.loop, List.foldl_cons, List.foldl_nil]
  rw [h 0 (by decide), h 1 (by decide), h 2 (by decide), h 3 (by decide)]

/-- Both timestamp fields of a complete frame are read as they were received. -/
theorem bytesAt_of_complete {radio : Radio} (h : radio.CompleteFrame) (buf : Buffer 20)
    {idx : Nat} (hidx : respMsgPollRxTsIdx ≤ idx ∧ idx ≤ respMsgRespTxTsIdx) {i : Nat}
    (hi : i < respMsgTsLen) :
    bytesAt (receivedBuffer radio buf) idx i = radio.rxBuffer (idx + i) := by
  obtain ⟨hlow, hhigh⟩ := hidx
  unfold respMsgPollRxTsIdx at hlow
  unfold respMsgRespTxTsIdx at hhigh
  unfold respMsgTsLen at hi
  have hbuf : idx + i < 20 := by omega
  have hseq : idx + i ≠ allMsgSnIdx := by
    unfold allMsgSnIdx
    omega
  rw [bytesAt_of_lt hbuf]
  refine receivedBuffer_of_complete h _ ?_ hseq
  simp only [respMsgRespTxTsIdx, respMsgTsLen]
  omega

omit [CFloat F] [CDouble F D] in
theorem checkedRanging_of_complete {c : RangingCall D} (h : c.input.CompleteFrame) :
    checkedRanging c = ownRanging c.input := by
  have hts (idx : Nat) (hidx : respMsgPollRxTsIdx ≤ idx ∧ idx ≤ respMsgRespTxTsIdx) :
      respMsgGetTs (bytesAt (receivedBuffer c.input c.before.rxBuffer) idx) =
        respMsgGetTs fun i => c.input.rxBuffer (idx + i) := by
    apply respMsgGetTs_congr
    exact fun i hi => bytesAt_of_complete h _ hidx hi
  unfold checkedRanging readRanging readFrame ownRanging
  rw [hts _ (by decide), hts _ (by decide)]

omit [CFloat F] [CDouble F D] in
theorem not_accepted_of_not_checkPassed {c : RangingCall D} (h : ¬ CheckPassed c) :
    ¬ c.input.Accepted (polledNode c) :=
  fun haccepted => h ((checkPassed_of_complete haccepted.2.1).mpr haccepted)

theorem call_outcome {rs : List Radio} {c : RangingCall D}
    (hc : c ∈ calls ssInitRun (powerOn : Initiator D) rs) : Outcome c := by
  obtain ⟨k, hk⟩ := List.getElem?_of_mem hc
  obtain ⟨hbefore, _, hrun⟩ := calls_indexed Rotation rotation_step 0 powerOn_rotation rs hk
  exact ssInitRun_outcome hbefore hrun

theorem not_unchanged_of_stored {r : Ranging} {s s' : Initiator D} (h : Stored r s s') :
    ¬ Unchanged s s' := by
  intro hkept
  have := h.rxCount.symm.trans hkept.rxCount
  omega

/-- In every run, the calls that take ranges freshly are those whose header
check does not pass on a frame that cannot have supplied the bytes. -/
theorem ssInitRun_fresh_iff (rs : List Radio) :
    ∀ c ∈ calls ssInitRun (powerOn : Initiator D) rs, Fresh c ↔ ¬ StaleCheck c := by
  intro c hc
  cases call_outcome hc with
  | silent quiet kept report =>
      have hnot : ¬ CheckPassed c := fun hpassed => quiet hpassed.1
      refine iff_of_true ⟨?_, fun _ => kept⟩ (fun hstale => hnot hstale.1)
      exact fun haccepted => absurd haccepted (not_accepted_of_not_checkPassed hnot)
  | rejected good failed kept report =>
      refine iff_of_true ⟨?_, fun _ => kept⟩ (fun hstale => failed hstale.1)
      exact fun haccepted => absurd haccepted (not_accepted_of_not_checkPassed failed)
  | ranged good passed stored report =>
      by_cases hcomplete : c.input.CompleteFrame
      · have haccepted := (checkPassed_of_complete hcomplete).mp passed
        rw [checkedRanging_of_complete hcomplete] at stored
        exact iff_of_true ⟨fun _ => stored, fun hnot => absurd haccepted hnot⟩
          (fun hstale => hstale.2 hcomplete)
      · refine iff_of_false ?_ (not_not_intro ⟨passed, hcomplete⟩)
        intro hfresh
        exact not_unchanged_of_stored stored (hfresh.2 fun haccepted => hcomplete haccepted.2.1)

/-- A call that takes a range with a property, found by evaluation. -/
theorem exists_ranging (P : Ranging → Prop) [DecidablePred P] {s : Initiator D} {radio : Radio}
    (h : ((ssInitRun s radio).bind fun result => result.1.ranging).any
      (fun r => decide (P r)) = true) :
    ∃ x s' r, ssInitRun s radio = some (x, s') ∧ x.ranging = some r ∧ P r := by
  obtain ⟨r, hresult, hr⟩ := exists_of_any P _ h
  obtain ⟨⟨x, s'⟩, hrun, hranging⟩ := Option.bind_eq_some_iff.mp hresult
  exact ⟨x, s', r, hrun, hranging, hr⟩

/-- A good frame of somebody else, `len` bytes long. -/
def foreignRadio (len : Word32) : Radio := ⟨[sysStatusRxfcg], len, fun _ => 0x55, 0, 0, 0⟩

/-- A late response of Challah arrives while Pumpernickel is polled, and a frame
too long for `rx_buffer` while Challah is. -/
def staleRun : List Radio := [responseRadio 2, foreignRadio 30]

/-- The late response is counted under the foreign frame. -/
theorem ssInitRun_staleRun :
    ¬ ∀ rs, ∀ c ∈ calls ssInitRun (powerOn : Initiator ℚ) rs, Fresh c := by
  intro hfresh
  obtain ⟨c, hc, hnot, hbefore, hafter⟩ := exists_of_any
    (fun c => ¬ c.input.Accepted (polledNode c) ∧ c.before.rxCount = 0 ∧ c.after.rxCount = 1)
    (calls ssInitRun (powerOn : Initiator ℚ) staleRun)[1]? (by decide +kernel)
  have hkept := (hfresh staleRun c (List.mem_of_getElem? hc)).2 hnot
  have := hkept.rxCount
  omega

theorem ssInitRun_fresh_iff_staleRun :
    (∃ c, (calls ssInitRun (powerOn : Initiator ℚ) staleRun)[0]? = some c ∧ Fresh c) ∧
      ∃ c, (calls ssInitRun (powerOn : Initiator ℚ) staleRun)[1]? = some c ∧ ¬ Fresh c := by
  obtain ⟨first, hc, hnot⟩ := exists_of_any (fun c => ¬ StaleCheck c)
    (calls ssInitRun (powerOn : Initiator ℚ) staleRun)[0]? (by decide +kernel)
  obtain ⟨second, hc', hstale⟩ := exists_of_any StaleCheck
    (calls ssInitRun (powerOn : Initiator ℚ) staleRun)[1]? (by decide +kernel)
  refine ⟨⟨first, hc, ?_⟩, ⟨second, hc', ?_⟩⟩
  · exact (ssInitRun_fresh_iff staleRun first (List.mem_of_getElem? hc)).mpr hnot
  · intro hfresh
    exact (ssInitRun_fresh_iff staleRun second (List.mem_of_getElem? hc')).mp hfresh hstale

/-- In every run, what is reported belongs to the node it is reported under
exactly if the good frame behind it passes the header check; with the check on
the frame's own bytes, exactly if that frame is accepted. -/
theorem printDistance_attributed_iff (rs : List Radio) :
    ∀ c ∈ calls ssInitRun (powerOn : Initiator D) rs,
      (Attributed (CheckPassed c) (checkedRanging c) c ↔ (c.input.GoodFrame → CheckPassed c)) ∧
      (Attributed (c.input.Accepted (polledNode c)) (ownRanging c.input) c ↔
        (c.input.GoodFrame → c.input.Accepted (polledNode c))) := by
  intro c hc
  cases call_outcome hc with
  | silent quiet kept report =>
      unfold Attributed
      rw [report]
      exact ⟨iff_of_true (by simp) (fun good => absurd good quiet),
        iff_of_true (by simp) (fun good => absurd good quiet)⟩
  | rejected good failed kept report =>
      have hnot := not_accepted_of_not_checkPassed failed
      refine ⟨iff_of_false ?_ (fun h => failed (h good)), iff_of_false ?_ (fun h => hnot (h good))⟩
      · exact fun h => failed (h _ report).1
      · exact fun h => hnot (h _ report).1
  | ranged good passed stored report =>
      constructor
      · refine iff_of_true ?_ (fun _ => passed)
        intro other hother
        rw [report] at hother
        exact ⟨passed, (Option.some.inj hother).symm⟩
      · constructor
        · exact fun h _ => (h _ report).1
        · intro h other hother
          have haccepted := h good
          rw [report, checkedRanging_of_complete haccepted.2.1] at hother
          exact ⟨haccepted, (Option.some.inj hother).symm⟩

/-- Pumpernickel answers, then a foreign frame arrives while Challah is polled. -/
def foreignRun : List Radio := [responseRadio 1, foreignRadio 20]

/-- Pumpernickel's distance is reported under Challah's number. -/
theorem printDistance_foreignRun :
    ¬ ∀ rs, ∀ c ∈ calls ssInitRun (powerOn : Initiator ℚ) rs,
      Attributed (CheckPassed c) (checkedRanging c) c := by
  intro hattributed
  obtain ⟨c, hc, hfailed, hreported⟩ := exists_of_any
    (fun c => ¬ CheckPassed c ∧ c.output.report.isSome = true)
    (calls ssInitRun (powerOn : Initiator ℚ) foreignRun)[1]? (by decide +kernel)
  obtain ⟨report, hreport⟩ := Option.isSome_iff_exists.mp hreported
  exact hfailed (hattributed foreignRun c (List.mem_of_getElem? hc) report hreport).1

theorem printDistance_attributed_iff_foreignRun :
    (∃ c, (calls ssInitRun (powerOn : Initiator ℚ) foreignRun)[0]? = some c ∧
      Attributed (CheckPassed c) (checkedRanging c) c) ∧
    ∃ c, (calls ssInitRun (powerOn : Initiator ℚ) foreignRun)[1]? = some c ∧
      ¬ Attributed (c.input.Accepted (polledNode c)) (ownRanging c.input) c := by
  obtain ⟨first, hc, hpassed⟩ := exists_of_any CheckPassed
    (calls ssInitRun (powerOn : Initiator ℚ) foreignRun)[0]? (by decide +kernel)
  obtain ⟨second, hc', hgood, hnot⟩ := exists_of_any
    (fun c => c.input.GoodFrame ∧ ¬ c.input.Accepted (polledNode c))
    (calls ssInitRun (powerOn : Initiator ℚ) foreignRun)[1]? (by decide +kernel)
  refine ⟨⟨first, hc, ?_⟩, ⟨second, hc', ?_⟩⟩
  · exact (printDistance_attributed_iff foreignRun first (List.mem_of_getElem? hc)).1.mpr
      fun _ => hpassed
  · intro hattributed
    exact hnot ((printDistance_attributed_iff foreignRun second
      (List.mem_of_getElem? hc')).2.mp hattributed hgood)

end Breadcrumb.Uwb
