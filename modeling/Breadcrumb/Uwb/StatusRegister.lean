import Breadcrumb.Uwb.Ranging

/-!
SYS_STATUS across calls of `ss_init_run`. The words the wait loop sees are what
the register accumulates, and the register the next call starts from is what
the writes at the end of this one leave set.
-/

namespace Breadcrumb.Uwb

open Breadcrumb.Machine

variable {F D : Type} [CFloat F] [CDouble F D]

/-- The radio events of one exchange: the bits that come up before each status
read, those that come up between the last read and the status write, and the
other readings of the call. -/
structure Events where
  polled : List Word32
  late : Word32
  radio : Radio

def sysStatusWrite (reg : Word32) (write : BusWrite) : Word32 :=
  if write.recordNumber = sysStatusId then
    clearOnes reg (assemble 32 write.buffer <<< (8 * write.index))
  else reg

/-- The register when the wait loop of the call begins. -/
def pollStatus (t : Initiator D × Word32) : Word32 :=
  (pollWrites (startPoll t.1)).foldl sysStatusWrite t.2

/-- One call of `ss_init_run` together with the register it polls. -/
def ssInitRunStatus (t : Initiator D × Word32) (events : Events) :
    Option (Exchange D × Initiator D × Word32) :=
  (ssInitRun t.1 { events.radio with status := readings (pollStatus t) events.polled }).map
    fun result => (result.1, result.2,
      result.1.ackWrites.foldl sysStatusWrite (result.1.statusWord ||| events.late))

def sysStatusRxFailed : Word32 := sysStatusAllRxTo ||| sysStatusAllRxErr

/-- The events of the exchange hold a good frame and a timeout or error. -/
def Events.Mixed (events : Events) : Prop :=
  ∃ word ∈ firstHit waitMask (readings 0 events.polled),
    (word ||| events.late) &&& sysStatusRxfcg ≠ 0 ∧
      (word ||| events.late) &&& sysStatusRxFailed ≠ 0

instance (events : Events) : Decidable events.Mixed :=
  decidable_of_iff
    ((firstHit waitMask (readings 0 events.polled)).any fun word =>
      (word ||| events.late) &&& sysStatusRxfcg ≠ 0 ∧
        (word ||| events.late) &&& sysStatusRxFailed ≠ 0)
    (by simp [Events.Mixed, Option.any_eq_true])

abbrev StatusCall (D : Type) := Call (Initiator D × Word32) Events (Exchange D)

/-- Nothing the call acted on is left for the next one. -/
structure Settled (c : StatusCall D) : Prop where
  acknowledged : c.output.statusWord &&& waitMask &&& c.after.2 = 0
  nextOwn : ∀ next x t, ssInitRunStatus c.after next = some (x, t) →
    ∃ own, firstHit waitMask (readings 0 next.polled) = some own ∧
      x.statusWord &&& waitMask = own &&& waitMask

theorem waitMask_groups : waitMask = sysStatusRxfcg ||| sysStatusRxFailed := by decide

theorem rxfcg_failed_disjoint : sysStatusRxfcg &&& sysStatusRxFailed = 0 := by decide

theorem failed_rxfcg_disjoint : sysStatusRxFailed &&& sysStatusRxfcg = 0 := by decide

theorem txfrs_waitMask_disjoint : sysStatusTxfrs &&& waitMask = 0 := by decide

theorem sysStatusWrite_32bitreg (reg regval : Word32) :
    sysStatusWrite reg (dwtWrite32bitreg sysStatusId regval) = clearOnes reg regval := by
  have hvalue : assemble 32 (leBytes 4 regval) = regval := assemble_leBytes_self regval (by decide)
  simp [sysStatusWrite, dwtWrite32bitreg, hvalue]

omit [CFloat F] [CDouble F D] in
/-- Of the writes in front of the wait loop only the first goes to SYS_STATUS. -/
theorem pollStatus_eq (t : Initiator D × Word32) :
    pollStatus t = clearOnes t.2 sysStatusTxfrs := by
  have hdata (reg : Word32) :
      (dwtWritetxdata (startPoll t.1).txPollMsg 0).foldl sysStatusWrite reg = reg := rfl
  rw [pollStatus, pollWrites, List.cons_append, List.foldl_cons, sysStatusWrite_32bitreg,
    List.foldl_append, hdata]
  rfl

theorem finishRun_ackWrites {radio : Radio} {status : Word32} {s s' : Initiator D}
    {x : Exchange D} (h : finishRun radio status s = (x, s')) (reg : Word32) :
    x.ackWrites.foldl sysStatusWrite reg =
      clearOnes reg (if status &&& sysStatusRxfcg ≠ 0 then sysStatusRxfcg else sysStatusRxFailed) := by
  unfold finishRun at h
  split at h
  · next hgood =>
      cases h
      rw [if_pos hgood]
      exact sysStatusWrite_32bitreg reg _
  · next hgood =>
      cases h
      rw [if_neg hgood]
      exact sysStatusWrite_32bitreg reg _

theorem ssInitRunStatus_eq_some {t t' : Initiator D × Word32} {events : Events}
    {x : Exchange D} (h : ssInitRunStatus t events = some (x, t')) :
    firstHit waitMask (readings (pollStatus t) events.polled) = some x.statusWord ∧
      t'.2 = clearOnes (x.statusWord ||| events.late)
        (if x.statusWord &&& sysStatusRxfcg ≠ 0 then sysStatusRxfcg else sysStatusRxFailed) := by
  rw [ssInitRunStatus, Option.map_eq_some_iff] at h
  obtain ⟨⟨x', s'⟩, hrun, hresult⟩ := h
  cases hresult
  obtain ⟨status, hwait, hfinish⟩ := ssInitRun_eq_some.mp hrun
  have hframe := finishRun_frame { events.radio with
    status := readings (pollStatus t) events.polled } status (startPoll t.1)
  rw [hfinish] at hframe
  have hword : x'.statusWord = status := hframe.1.2.2.2.2
  rw [hword]
  exact ⟨hwait, finishRun_ackWrites hfinish _⟩

theorem mixed_iff {events : Events} {own : Word32}
    (hown : firstHit waitMask (readings 0 events.polled) = some own) :
    events.Mixed ↔ (own ||| events.late) &&& sysStatusRxfcg ≠ 0 ∧
      (own ||| events.late) &&& sysStatusRxFailed ≠ 0 := by
  constructor
  · rintro ⟨word, hfirst, hboth⟩
    cases Option.some.inj (hown.symm.trans hfirst)
    exact hboth
  · exact fun hboth => ⟨own, hown, hboth⟩

/-- From a register without bits of the mask the wait loop ends on events of its
own exchange, and what it leaves is decided by which groups they belong to. -/
theorem ssInitRunStatus_clear {t t' : Initiator D × Word32} {events : Events}
    {x : Exchange D} (hclear : t.2 &&& waitMask = 0)
    (h : ssInitRunStatus t events = some (x, t')) :
    (∃ own, firstHit waitMask (readings 0 events.polled) = some own ∧
      x.statusWord &&& waitMask = own &&& waitMask) ∧
    (t'.2 &&& waitMask = 0 ↔ ¬ events.Mixed) := by
  obtain ⟨hhit, hafter⟩ := ssInitRunStatus_eq_some h
  have hstart : pollStatus t &&& waitMask = 0 := by
    rw [pollStatus_eq, clearOnes_and_disjoint txfrs_waitMask_disjoint]
    exact hclear
  have hown := firstHit_readings_of_clear hstart 0 events.polled
  rw [show pollStatus t ||| 0 = pollStatus t from BitVec.or_zero, hhit, eq_comm,
    Option.map_eq_some_iff] at hown
  obtain ⟨own, hown, hword⟩ := hown
  obtain ⟨hstartGood, hstartFailed⟩ := and_groups_eq_zero.mp (waitMask_groups ▸ hstart)
  have htotal (group : Word32) (hgroup : pollStatus t &&& group = 0) :
      (x.statusWord ||| events.late) &&& group = (own ||| events.late) &&& group := by
    rw [← hword, BitVec.or_assoc]
    exact or_and_of_clear hgroup
  have hownGood : (pollStatus t ||| own) &&& sysStatusRxfcg = own &&& sysStatusRxfcg :=
    or_and_of_clear hstartGood
  rw [hword] at hownGood
  refine ⟨⟨own, hown, by rw [← hword]; exact or_and_of_clear hstart⟩, ?_⟩
  by_cases hgood : x.statusWord &&& sysStatusRxfcg = 0
  · have hownFailed : own &&& sysStatusRxFailed ≠ 0 := by
      intro hzero
      apply firstHit_hits hown
      rw [waitMask_groups]
      exact and_groups_eq_zero.mpr ⟨hownGood ▸ hgood, hzero⟩
    rw [hafter, if_neg (not_not_intro hgood), waitMask_groups, BitVec.or_comm sysStatusRxfcg,
      clearOnes_and_groups failed_rxfcg_disjoint, htotal _ hstartGood, mixed_iff hown]
    refine ⟨fun hzero hboth => hboth.1 hzero, fun hnot => by_contra fun hleft => ?_⟩
    exact hnot ⟨hleft, or_and_ne_zero hownFailed⟩
  · have hownGood' : own &&& sysStatusRxfcg ≠ 0 := hownGood ▸ hgood
    rw [hafter, if_pos hgood, waitMask_groups, clearOnes_and_groups rxfcg_failed_disjoint,
      htotal _ hstartFailed, mixed_iff hown]
    refine ⟨fun hzero hboth => hboth.2 hzero, fun hnot => by_contra fun hleft => ?_⟩
    exact hnot ⟨or_and_ne_zero hownGood', hleft⟩

/-- Settled calls are those that leave no bit of the mask. -/
theorem settled_iff_clear (c : StatusCall D) : Settled c ↔ c.after.2 &&& waitMask = 0 := by
  constructor
  · intro hsettled
    by_contra hleft
    have hpoll : pollStatus c.after &&& waitMask ≠ 0 := by
      rw [pollStatus_eq, clearOnes_and_disjoint txfrs_waitMask_disjoint]
      exact hleft
    -- an exchange without any event: only what was left can end its wait loop
    have hhit : firstHit waitMask (readings (pollStatus c.after) [0]) =
        some (pollStatus c.after ||| 0) := if_pos (or_and_ne_zero hpoll)
    obtain ⟨⟨x, t⟩, hnext⟩ : ∃ result, ssInitRunStatus c.after ⟨[0], 0, c.input.radio⟩ =
        some result := by
      rw [ssInitRunStatus, ssInitRun, waitStatus, hhit]
      exact ⟨_, rfl⟩
    obtain ⟨own, hown, _⟩ := hsettled.nextOwn _ x t hnext
    exact absurd hown (by rw [show firstHit waitMask (readings 0 [0]) = none by decide]; simp)
  · intro hclear
    refine ⟨?_, fun next x t hnext => (ssInitRunStatus_clear hclear hnext).1⟩
    rw [BitVec.and_assoc, BitVec.and_comm waitMask, hclear]
    exact BitVec.and_zero

/-- A run from a cleared register is settled throughout exactly if none of its
exchanges has a good frame together with a timeout or an error. -/
theorem ssInitRun_settled_iff (exchanges : List Events) :
    (∀ c ∈ calls ssInitRunStatus ((powerOn : Initiator D), 0) exchanges, Settled c) ↔
      ∀ c ∈ calls ssInitRunStatus ((powerOn : Initiator D), 0) exchanges, ¬ c.input.Mixed := by
  apply calls_forall_iff (fun t => t.2 &&& waitMask = 0) Settled (fun events => ¬ events.Mixed)
  · intro t events x t' hclear hrun
    rw [settled_iff_clear]
    exact (ssInitRunStatus_clear hclear hrun).2
  · intro t events x t' _ _ hsettled
    exact (settled_iff_clear _).mp hsettled
  · exact BitVec.zero_and

/-- A good frame and a timeout come up together, and the next exchange sees
nothing of its own. -/
def mixedExchanges : List Events :=
  [⟨[sysStatusRxfcg ||| sysStatusRxrfto], 0, timeoutRadio⟩,
    ⟨[0], 0, timeoutRadio⟩]

/-- The timeout is still set when the first call returns. -/
theorem ssInitRun_mixedExchanges :
    ¬ ∀ exchanges, ∀ c ∈ calls ssInitRunStatus ((powerOn : Initiator ℚ), 0) exchanges,
      c.output.statusWord &&& waitMask &&& c.after.2 = 0 := by
  intro hacknowledged
  obtain ⟨c, hc, hleft⟩ := exists_of_any
    (fun c => c.output.statusWord &&& waitMask &&& c.after.2 ≠ 0)
    (calls ssInitRunStatus ((powerOn : Initiator ℚ), 0) mixedExchanges)[0]? (by decide +kernel)
  exact hleft (hacknowledged mixedExchanges c (List.mem_of_getElem? hc))

/-- A timeout followed by a good frame settles; a mixed exchange does not. -/
theorem ssInitRun_settled_iff_mixedExchanges :
    (∀ c ∈ calls ssInitRunStatus ((powerOn : Initiator ℚ), 0)
      [⟨[0, sysStatusRxrfto], 0, timeoutRadio⟩, ⟨[sysStatusRxfcg], 0, timeoutRadio⟩],
        Settled c) ∧
    ¬ ∀ c ∈ calls ssInitRunStatus ((powerOn : Initiator ℚ), 0) mixedExchanges, Settled c := by
  rw [ssInitRun_settled_iff, ssInitRun_settled_iff]
  exact ⟨by decide +kernel, by decide +kernel⟩

end Breadcrumb.Uwb
