import Breadcrumb.Driver.RangingBus

/-!
Runs of `ss_init_run` on a device. On every device the program is the function
for the words it reads, with the same writes in the same order, and it reads
the registers of the function and no others.
-/

namespace Breadcrumb.Driver

open Breadcrumb.Machine
open Breadcrumb.Uwb hiding ssInitRun finishRun readFrame readRanging dwtWrite32bitreg
  dwtWrite8bitoffsetreg dwtWritetxdata dwtWritetxfctrl dwtRxreset dwtRead32bitreg
  dwtReadtxtimestamplo32 dwtReadrxtimestamplo32 dwtReadcarrierintegrator

theorem readAt_append {reads : List (RegAddr × List Byte)} {a : RegAddr}
    (h : ∀ r ∈ reads, r.1 ≠ a) (rest : List (RegAddr × List Byte)) :
    readAt (reads ++ rest) a = readAt rest a := by
  unfold readAt
  rw [List.filter_append, List.filter_eq_nil_iff.mpr (by simpa using h), List.nil_append]

section Refinement

variable {F D δ : Type} [CFloat F] [CDouble F D]
  (dev : Device RegAddr Byte δ)

omit [CFloat F] [CDouble F D] in
theorem sendPoll_writes {l : DwtLocalData} (hl : l.txFCTRL = txFctrl) (s : Initiator D) (d : δ) :
    (sendPoll l s).writes dev d = (pollWrites s).map busWrite := by
  have hdata : (bytes s.txPollMsg).length = 12 := bytes_length _
  simp only [sendPoll, dwtWritetxdata, dwtWritetxfctrl, hl, hdata]
  rfl

omit [CFloat F] [CDouble F D] in
theorem sendPoll_run (l : DwtLocalData) (s : Initiator D) (d : δ) :
    ((sendPoll l s).run dev d).1 = { l with wait4resp := 1 } ∧ (sendPoll l s).reads dev d = [] := by
  have hdata : (bytes s.txPollMsg).length = 12 := bytes_length _
  simp only [sendPoll, dwtWritetxdata, hdata]
  exact ⟨rfl, rfl⟩

/-- A word read from SYS_STATUS. -/
def statusRead (word : Word32) : RegAddr × List Byte := (⟨sysStatusId, 0⟩, leBytes 4 word)

/-- The wait loop ends on the first hit of the words it reads, if there is one, and reads nothing
behind it. -/
theorem waitEvent_run (fuel : Nat) (d : δ) :
    ∃ status, ((waitEvent fuel).run dev d).1 = waitStatus status ∧
      (waitEvent fuel).writes dev d = [] ∧ (waitEvent fuel).reads dev d = status.map statusRead ∧
      waitStatus status.dropLast = none ∧ (waitStatus status = none → status.length = fuel) := by
  induction fuel generalizing d with
  | zero => exact ⟨[], rfl, rfl, rfl, rfl, fun _ => rfl⟩
  | succ fuel ih =>
      let word := (dwtRead32bitreg sysStatusId).run dev d
      obtain ⟨status, hresult, hwrites, hreads, hearlier, hlength⟩ := ih word.2
      have hwritten : (dwtRead32bitreg sysStatusId).writes dev d = [] := rfl
      have hread : (dwtRead32bitreg sysStatusId).reads dev d = [statusRead word.1] := by
        have hanswer := dev.read_length d ⟨sysStatusId, 0⟩ 4
        have hbytes := leBytes_assemble (w := 32) (le_of_eq (congrArg (8 * ·) hanswer))
        rw [hanswer] at hbytes
        exact congrArg (fun bytes => [((⟨sysStatusId, 0⟩ : RegAddr), bytes)]) hbytes.symm
      simp only [waitEvent, BusProgram.run_bind, BusProgram.writes_bind, BusProgram.reads_bind,
        hwritten, hread]
      by_cases hhit : word.1 &&& waitMask = 0
      · have hskip : waitStatus (word.1 :: status) = waitStatus status :=
          if_neg (not_not_intro hhit)
        rw [if_neg (not_not_intro hhit)]
        refine ⟨word.1 :: status, hresult.trans hskip.symm, hwrites,
          congrArg (statusRead word.1 :: ·) hreads, ?_,
          fun hnone => congrArg (· + 1) (hlength (hskip.symm.trans hnone))⟩
        cases status with
        | nil => rfl
        | cons next status => exact (if_neg (not_not_intro hhit)).trans hearlier
      · rw [if_pos hhit]
        have hstop : waitStatus [word.1] = some word.1 := if_pos hhit
        exact ⟨[word.1], hstop.symm, rfl, rfl, rfl,
          fun hnone => absurd (hstop.symm.trans hnone) (Option.some_ne_none _)⟩

theorem clearSn_eq (buffer : Buffer 20) :
    (fun i => if i.val = allMsgSnIdx then 0 else buffer i) = Function.update buffer 2 0 := by
  funext i
  by_cases hsn : i = 2
  · rw [hsn, Function.update_self]
    rfl
  · rw [Function.update_of_ne hsn]
    exact if_neg fun hval => hsn (Fin.ext hval)

theorem statusRead_extent (status : List Word32) :
    (status.map statusRead).map extent = status.map fun _ => (⟨sysStatusId, 0⟩, 4) := by
  rw [List.map_map]
  exact List.map_congr_left fun word _ => congrArg (Prod.mk _) (leBytes_length 4 word)

theorem statusRead_words (status : List Word32) {rest : List (RegAddr × List Byte)}
    (h : ∀ r ∈ rest, r.1 ≠ ⟨sysStatusId, 0⟩) :
    radioOfReads (status.map statusRead ++ rest) = { radioOfReads rest with status := status } := by
  have hother {a : RegAddr} (ha : ⟨sysStatusId, 0⟩ ≠ a) :
      readAt (status.map statusRead ++ rest) a = readAt rest a := by
    apply readAt_append
    intro r hr
    obtain ⟨word, _, rfl⟩ := List.mem_map.mp hr
    exact ha
  have hword (word : Word32) : assemble 32 (leBytes 4 word) = word :=
    assemble_leBytes_self word (by decide)
  have hstatus : (status.map statusRead).filter (fun r => r.1 = ⟨sysStatusId, 0⟩) =
      status.map statusRead := by
    apply List.filter_eq_self.mpr
    intro r hr
    obtain ⟨word, _, rfl⟩ := List.mem_map.mp hr
    rfl
  have hnone : rest.filter (fun r => r.1 = ⟨sysStatusId, 0⟩) = [] :=
    List.filter_eq_nil_iff.mpr (by simpa using h)
  unfold radioOfReads
  rw [hother (by decide), hother (by decide), hother (by decide), hother (by decide),
    hother (by decide), List.filter_append, hstatus, hnone, List.append_nil, List.map_map]
  congr 1
  exact (List.map_congr_left fun word _ => hword word).trans (List.map_id status)

theorem fetchFrame_run (frameLen : Nat) (rxBuffer : Buffer 20) (d : δ) :
    ∃ buffer : List Byte, buffer.length = frameLen ∧
      (fetchFrame frameLen rxBuffer).writes dev d = [] ∧
      (fetchFrame frameLen rxBuffer).reads dev d =
        (if frameLen ≤ rxBufLen then [((⟨rxBufferId, 0⟩ : RegAddr), buffer)] else []) ∧
      ((fetchFrame frameLen rxBuffer).run dev d).1 =
        if frameLen ≤ rxBufLen then overlay rxBuffer frameLen (pointer buffer) else rxBuffer := by
  refine ⟨(dev.read d ⟨rxBufferId, 0⟩ frameLen).1, dev.read_length _ _ _, ?_⟩
  unfold fetchFrame
  split
  · exact ⟨rfl, rfl, rfl⟩
  · exact ⟨rfl, rfl, rfl⟩

omit [CFloat F] [CDouble F D] in
/-- What `readFrame` reads, and what it makes of that. -/
theorem readFrame_run (s : Initiator D) (d : δ) :
    ∃ info buffer : List Byte, info.length = 4 ∧
      buffer.length = (assemble 32 info &&& rxFinfoRxflenMask).toNat ∧
      (readFrame s).writes dev d = [] ∧
      (readFrame s).reads dev d = ((⟨rxFinfoId, 0⟩ : RegAddr), info) ::
        (if (assemble 32 info &&& rxFinfoRxflenMask).toNat ≤ rxBufLen then
          [(⟨rxBufferId, 0⟩, buffer)] else []) ∧
      ∀ radio : Radio, radio.rxFinfo = assemble 32 info →
        (radio.frameLen ≤ rxBufLen → radio.rxBuffer = pointer buffer) →
        ((readFrame s).run dev d).1 = Uwb.readFrame radio s := by
  let info := dev.read d ⟨rxFinfoId, 0⟩ 4
  let frameLen := (assemble 32 info.1 &&& rxFinfoRxflenMask).toNat
  obtain ⟨buffer, hlength, hwrites, hreads, hresult⟩ :=
    fetchFrame_run dev frameLen s.rxBuffer info.2
  refine ⟨info.1, buffer, dev.read_length _ _ _, hlength, ?_, ?_, fun radio hinfo hbuffer => ?_⟩
  · rw [readFrame, BusProgram.writes_bind, BusProgram.writes_bind]
    exact congrArg (· ++ []) hwrites
  · rw [readFrame, BusProgram.reads_bind, BusProgram.reads_bind]
    refine congrArg (_ :: ·) ?_
    exact (congrArg (· ++ []) hreads).trans (List.append_nil _)
  · have hlen : radio.frameLen = frameLen := by
      unfold Radio.frameLen
      rw [hinfo]
    have hfetched : ((fetchFrame frameLen s.rxBuffer).run dev info.2).1 =
        if radio.frameLen ≤ rxBufLen then overlay s.rxBuffer radio.frameLen radio.rxBuffer
        else s.rxBuffer := by
      rw [hresult, hlen]
      split
      next hfits => rw [hbuffer (le_of_eq_of_le hlen hfits)]
      next => rfl
    rw [readFrame, BusProgram.run_bind, BusProgram.run_bind]
    unfold Uwb.readFrame receivedBuffer
    rw [← clearSn_eq, ← hfetched]
    rfl

omit [CFloat F] [CDouble F D] in
theorem readRanging_run (s : Initiator D) (d : δ) :
    ∃ tx rx carrier : List Byte, tx.length = 4 ∧ rx.length = 4 ∧ carrier.length = 3 ∧
      (readRanging s).writes dev d = [] ∧
      (readRanging s).reads dev d = [((⟨txTimeId, 0⟩ : RegAddr), tx), (⟨rxTimeId, 0⟩, rx),
        (⟨drxConfId, drxCarrierIntOffset⟩, carrier)] ∧
      ∀ radio : Radio, radio.txTime = assemble 40 tx → radio.rxTime = assemble 40 rx →
        radio.carrierInt = assemble 24 carrier →
        ((readRanging s).run dev d).1 = Uwb.readRanging radio s := by
  let tx := dev.read d ⟨txTimeId, 0⟩ 4
  let rx := dev.read tx.2 ⟨rxTimeId, 0⟩ 4
  let carrier := dev.read rx.2 ⟨drxConfId, drxCarrierIntOffset⟩ 3
  have hlow {w n : Nat} {bytes : List Byte} (hlength : bytes.length = n) (hfits : 8 * n ≤ w) :
      leBytes n (assemble w bytes) = bytes := by
    rw [← hlength]
    exact leBytes_assemble (by rwa [hlength])
  have htx : leBytes 4 (assemble 40 tx.1) = tx.1 := hlow (dev.read_length _ _ _) (by decide)
  have hrx : leBytes 4 (assemble 40 rx.1) = rx.1 := hlow (dev.read_length _ _ _) (by decide)
  have hcarrier : leBytes 3 (assemble 24 carrier.1) = carrier.1 :=
    hlow (dev.read_length _ _ _) (by decide)
  refine ⟨tx.1, rx.1, carrier.1, dev.read_length _ _ _, dev.read_length _ _ _,
    dev.read_length _ _ _, rfl, rfl, fun radio htxTime hrxTime hcarrierInt => ?_⟩
  unfold Uwb.readRanging Uwb.dwtReadtxtimestamplo32 Uwb.dwtReadrxtimestamplo32
    Uwb.dwtReadcarrierintegrator Uwb.dwtRead32bitreg
  rw [htxTime, hrxTime, hcarrierInt, htx, hrx, hcarrier]
  rfl

theorem takeRange_run (s : Initiator D) (d : δ) :
    ∃ tx rx carrier : List Byte, tx.length = 4 ∧ rx.length = 4 ∧ carrier.length = 3 ∧
      (takeRange s).writes dev d = [] ∧
      (takeRange s).reads dev d = (if SameBytes allMsgCommonLen s.rxBuffer s.rxRespMsg then
        [((⟨txTimeId, 0⟩ : RegAddr), tx), (⟨rxTimeId, 0⟩, rx),
          (⟨drxConfId, drxCarrierIntOffset⟩, carrier)] else []) ∧
      ∀ radio : Radio, (SameBytes allMsgCommonLen s.rxBuffer s.rxRespMsg →
        radio.txTime = assemble 40 tx ∧ radio.rxTime = assemble 40 rx ∧
          radio.carrierInt = assemble 24 carrier) →
        ((takeRange s).run dev d).1 = (checkFrame radio s).2 := by
  obtain ⟨tx, rx, carrier, htx, hrx, hcarrier, hwrites, hreads, hresult⟩ := readRanging_run dev s d
  refine ⟨tx, rx, carrier, htx, hrx, hcarrier, ?_⟩
  unfold takeRange
  by_cases hsame : SameBytes allMsgCommonLen s.rxBuffer s.rxRespMsg
  · rw [if_pos hsame, if_pos hsame, BusProgram.writes_bind, BusProgram.reads_bind,
      BusProgram.run_bind]
    refine ⟨congrArg (· ++ []) hwrites, congrArg (· ++ []) hreads, fun radio hradio => ?_⟩
    obtain ⟨htxTime, hrxTime, hcarrierInt⟩ := hradio hsame
    rw [checkFrame_accepted hsame, hresult radio htxTime hrxTime hcarrierInt]
    rfl
  · rw [if_neg hsame, if_neg hsame]
    refine ⟨rfl, rfl, fun radio _ => ?_⟩
    rw [checkFrame_rejected hsame]
    rfl

/-- The words of a good frame, in the order in which they are read. -/
def goodFrameReads (info buffer tx rx carrier : List Byte) (fits same : Prop) [Decidable fits]
    [Decidable same] : List (RegAddr × List Byte) :=
  ((⟨rxFinfoId, 0⟩ : RegAddr), info) :: ((if fits then [(⟨rxBufferId, 0⟩, buffer)] else []) ++
    if same then [(⟨txTimeId, 0⟩, tx), (⟨rxTimeId, 0⟩, rx),
      (⟨drxConfId, drxCarrierIntOffset⟩, carrier)] else [])

theorem radioOfReads_goodFrame (info buffer tx rx carrier : List Byte) (fits same : Prop)
    [Decidable fits] [Decidable same] :
    let radio := radioOfReads (goodFrameReads info buffer tx rx carrier fits same)
    radio.rxFinfo = assemble 32 info ∧ (fits → radio.rxBuffer = pointer buffer) ∧
      (same → radio.txTime = assemble 40 tx ∧ radio.rxTime = assemble 40 rx ∧
        radio.carrierInt = assemble 24 carrier) := by
  unfold goodFrameReads
  by_cases hfits : fits
  · by_cases hsame : same
    · rw [if_pos hfits, if_pos hsame]
      exact ⟨rfl, fun _ => rfl, fun _ => ⟨rfl, rfl, rfl⟩⟩
    · rw [if_pos hfits, if_neg hsame]
      exact ⟨rfl, fun _ => rfl, fun h => absurd h hsame⟩
  · by_cases hsame : same
    · rw [if_neg hfits, if_pos hsame]
      exact ⟨rfl, fun h => absurd h hfits, fun _ => ⟨rfl, rfl, rfl⟩⟩
    · rw [if_neg hfits, if_neg hsame]
      exact ⟨rfl, fun h => absurd h hfits, fun h => absurd h hsame⟩

theorem goodFrameReads_status (info buffer tx rx carrier : List Byte) (fits same : Prop)
    [Decidable fits] [Decidable same] :
    ∀ r ∈ goodFrameReads info buffer tx rx carrier fits same, r.1 ≠ ⟨sysStatusId, 0⟩ := by
  intro r hr
  rcases List.mem_cons.mp hr with rfl | hr
  · change (⟨rxFinfoId, 0⟩ : RegAddr) ≠ _
    decide
  · rcases List.mem_append.mp hr with hr | hr
    · split at hr
      · rw [List.mem_singleton.mp hr]
        change (⟨rxBufferId, 0⟩ : RegAddr) ≠ _
        decide
      · cases hr
    · split at hr
      · have haddr : r.1 ∈ [(⟨txTimeId, 0⟩ : RegAddr), ⟨rxTimeId, 0⟩,
            ⟨drxConfId, drxCarrierIntOffset⟩] := List.mem_map_of_mem (f := Prod.fst) hr
        exact ne_of_mem_of_not_mem haddr (by decide)
      · cases hr

/-- The block of a good frame: the function for the words that were read. -/
theorem takeFrame_run (s : Initiator D) (d : δ) :
    let radio := radioOfReads ((takeFrame s).reads dev d)
    (∀ r ∈ (takeFrame s).reads dev d, r.1 ≠ ⟨sysStatusId, 0⟩) ∧
      (takeFrame s).writes dev d = [] ∧ ∀ polled,
      let checked := checkFrame { radio with status := polled }
        (Uwb.readFrame { radio with status := polled } s)
      ((takeFrame s).run dev d).1 = checked.2 ∧
        ((takeFrame s).reads dev d).map extent =
          frameReads radio ++ if checked.1.isSome then rangingReads else [] := by
  obtain ⟨info, buffer, hinfo, hbuffer, hframeWrites, hframeReads, hframe⟩ := readFrame_run dev s d
  let s' := ((readFrame s).run dev d).1
  obtain ⟨tx, rx, carrier, htx, hrx, hcarrier, hrangeWrites, hrangeReads, hrange⟩ :=
    takeRange_run dev s' ((readFrame s).run dev d).2
  have hreads : (takeFrame s).reads dev d = goodFrameReads info buffer tx rx carrier
      ((assemble 32 info &&& rxFinfoRxflenMask).toNat ≤ rxBufLen)
      (SameBytes allMsgCommonLen s'.rxBuffer s'.rxRespMsg) := by
    rw [takeFrame, BusProgram.reads_bind, hframeReads, hrangeReads]
    rfl
  rw [hreads]
  obtain ⟨hrxFinfo, hrxBuffer, hreadings⟩ := radioOfReads_goodFrame info buffer tx rx carrier
    ((assemble 32 info &&& rxFinfoRxflenMask).toNat ≤ rxBufLen)
    (SameBytes allMsgCommonLen s'.rxBuffer s'.rxRespMsg)
  intro radio
  have hlen : radio.frameLen = (assemble 32 info &&& rxFinfoRxflenMask).toNat :=
    congrArg (fun w => (w &&& rxFinfoRxflenMask).toNat) hrxFinfo
  refine ⟨goodFrameReads_status _ _ _ _ _ _ _, ?_, fun polled => ?_⟩
  · rw [takeFrame, BusProgram.writes_bind, hframeWrites]
    exact hrangeWrites
  · have hs' : s' = Uwb.readFrame { radio with status := polled } s :=
      hframe _ hrxFinfo fun hfits => hrxBuffer (hlen ▸ hfits)
    have hresult : ((takeFrame s).run dev d).1 =
        (checkFrame { radio with status := polled } s').2 := by
      rw [takeFrame, BusProgram.run_bind]
      exact hrange _ hreadings
    rw [← hs']
    refine ⟨hresult, ?_⟩
    have hsome : (checkFrame { radio with status := polled } s').1.isSome =
        decide (SameBytes allMsgCommonLen s'.rxBuffer s'.rxRespMsg) := by
      unfold checkFrame
      split <;> simp_all
    unfold goodFrameReads frameReads
    rw [hlen, hsome]
    simp only [decide_eq_true_eq]
    split <;> split <;> simp [extent, rangingReads, hinfo, hbuffer, htx, hrx, hcarrier]

/-- Behind the wait loop. -/
theorem finishRun_run (status : Word32) (s : Initiator D) (d : δ) :
    let radio := radioOfReads ((finishRun status s).reads dev d)
    (∀ r ∈ (finishRun status s).reads dev d, r.1 ≠ ⟨sysStatusId, 0⟩) ∧ ∀ polled,
      let x := Uwb.finishRun { radio with status := polled } status s
      ((finishRun status s).run dev d).1 = (x.1.report, x.2) ∧
        (finishRun status s).writes dev d = x.1.ackWrites.map busWrite ∧
        ((finishRun status s).reads dev d).map extent =
          if status &&& sysStatusRxfcg ≠ 0 then
            frameReads radio ++ if x.1.ranging.isSome then rangingReads else []
          else [] := by
  unfold finishRun Uwb.finishRun
  by_cases hgood : status &&& sysStatusRxfcg = 0
  · simp only [hgood, ne_eq, not_true_eq_false, if_false]
    exact ⟨fun _ hr => absurd hr List.not_mem_nil, fun _ => ⟨rfl, rfl, rfl⟩⟩
  · let s' := frameIncr s.targetNode { s with statusReg := status }
    let d' := ((dwtWrite32bitreg sysStatusId sysStatusRxfcg).run dev d).2
    obtain ⟨hnoStatus, hwrites, hradio⟩ := takeFrame_run dev s' d'
    simp only [hgood, ne_eq, not_false_eq_true, if_true, BusProgram.run_bind,
      BusProgram.writes_bind, BusProgram.reads_bind, BusProgram.run_pure, BusProgram.writes_pure,
      BusProgram.reads_pure, List.append_nil]
    refine ⟨hnoStatus, fun polled => ?_⟩
    obtain ⟨hresult, hreads⟩ := hradio polled
    refine ⟨?_, ?_, hreads⟩
    · change (some (printDistance ((takeFrame s').run dev d').1.targetNode _), _) = _
      rw [hresult]
      rfl
    · change _ ++ (takeFrame s').writes dev d' = _
      rw [hwrites]
      rfl

/-- On every device the program is the function, for the words it reads; it reads SYS_STATUS up to
the first hit and then the registers of a good frame, and returns if there is a hit. -/
theorem ssInitRun_run (fuel : Nat) {l : DwtLocalData} (hl : l.txFCTRL = txFctrl)
    (s : Initiator D) (d : δ) :
    let radio := radioOfReads ((ssInitRun fuel l s).reads dev d)
    ((ssInitRun fuel l s).run dev d).1 = (Uwb.ssInitRun s radio).map (fun x =>
        (x.1.report, x.2, { l with wait4resp := 1 })) ∧
      (ssInitRun fuel l s).writes dev d = (callWrites s radio).map busWrite ∧
      ((ssInitRun fuel l s).reads dev d).map extent = callReads s radio ∧
      waitStatus radio.status.dropLast = none ∧
      (waitStatus radio.status = none → radio.status.length = fuel) := by
  let d₁ := ((sendPoll l (startPoll s)).run dev d).2
  let d₂ := ((waitEvent fuel).run dev d₁).2
  obtain ⟨hpolled, hpollReads⟩ := sendPoll_run dev l (startPoll s) d
  obtain ⟨status, hwait, hwaitWrites, hwaitReads, hearlier, hlength⟩ := waitEvent_run dev fuel d₁
  simp only [ssInitRun, BusProgram.run_bind, BusProgram.writes_bind, BusProgram.reads_bind,
    hpolled, hpollReads, sendPoll_writes dev hl, List.nil_append]
  rw [hwait, hwaitWrites, hwaitReads]
  cases hstatus : waitStatus status with
  | none =>
      have hradio : radioOfReads (status.map statusRead ++ []) =
          { radioOfReads [] with status := status } :=
        statusRead_words status fun _ hr => absurd hr List.not_mem_nil
      have hnone : Uwb.ssInitRun s { radioOfReads [] with status := status } = none := by
        rw [Uwb.ssInitRun, hstatus, Option.map_none]
      simp only [BusProgram.run_pure, BusProgram.writes_pure, BusProgram.reads_pure]
      rw [hradio, hnone, callWrites_none hnone, callReads_none hnone]
      refine ⟨rfl, List.append_nil _, ?_, hearlier, hlength⟩
      rw [List.append_nil]
      exact statusRead_extent status
  | some word =>
      obtain ⟨hnoStatus, hradio⟩ := finishRun_run dev word (startPoll s) d₂
      have hslept : ∀ d, (decaSleep rngDelayMs).reads dev d = [] ∧
          (decaSleep rngDelayMs).writes dev d = [] := fun _ => ⟨rfl, rfl⟩
      simp only [BusProgram.run_bind, BusProgram.writes_bind, BusProgram.reads_bind,
        BusProgram.run_pure, BusProgram.writes_pure, BusProgram.reads_pure, hslept,
        List.append_nil, List.nil_append]
      rw [statusRead_words status hnoStatus]
      let radio : Radio :=
        { radioOfReads ((finishRun word (startPoll s)).reads dev d₂) with status := status }
      obtain ⟨hresult, hwrites, hreads⟩ := hradio status
      have hsome : Uwb.ssInitRun s radio = some ((Uwb.finishRun radio word (startPoll s)).1,
          (Uwb.finishRun radio word (startPoll s)).2) := by
        rw [Uwb.ssInitRun, hstatus, Option.map_some]
      obtain ⟨-, -, -, hpoll, hword⟩ := (finishRun_frame radio word (startPoll s)).1
      have hword' : (Uwb.finishRun radio word (startPoll s)).1.statusWord = word := hword
      refine ⟨?_, ?_, ?_, hearlier, hlength⟩
      · rw [hsome, hresult]
        rfl
      · rw [callWrites_some hsome, hwrites, List.map_append]
        exact congrArg (fun writes => List.map busWrite writes ++ _) hpoll.symm
      · rw [callReads_some hsome, hword', List.map_append, hreads, statusRead_extent]
        rfl

end Refinement

end Breadcrumb.Driver
