import Breadcrumb.Uwb.Ranging

/-!
The polling schedule. One invariant, indexed by the number of calls that have
returned, ties the rotation counter to the three frame counters and to the two
templates; every outcome of a call hands it on.
-/

namespace Breadcrumb.Uwb

open Breadcrumb.Machine

/-- The address of each node: Pumpernickel, Challah and Barley. -/
def nodeAddress : Nat → Byte × Byte
  | 1 => (chr 'P', chr 'U')
  | 2 => (chr 'C', chr 'H')
  | 3 => (chr 'B', chr 'A')
  | _ => (0, 0)

/-- The ten bytes of a poll that reach the transmit buffer. -/
def pollHeader (n : Nat) (seq : Byte) : List Byte :=
  [0x41, 0x88, seq, 0xCA, 0xDE, (nodeAddress n).1, (nodeAddress n).2, chr 'R', chr 'Y', 0xE0]

/-- A poll with the two bytes the driver replaces by the check-sum. -/
def pollFrame (n : Nat) (seq : Byte) : Buffer 12 :=
  ![0x41, 0x88, seq, 0xCA, 0xDE, (nodeAddress n).1, (nodeAddress n).2, chr 'R', chr 'Y', 0xE0,
    0, 0]

/-- The response expected from a node, timestamps blank. -/
def respTemplate (n : Nat) : Buffer 20 :=
  ![0x41, 0x88, 0, 0xCA, 0xDE, chr 'R', chr 'Y', (nodeAddress n).1, (nodeAddress n).2, 0xE1,
    0, 0, 0, 0, 0, 0, 0, 0, 0, 0]

/-- A response from node `n`, taken from its template. -/
def responseRadio (n : Nat) : Radio :=
  ⟨[0, sysStatusRxfcg], 20, bytesAt (respTemplate n) 0, 0x100, 0x300, 0⟩

def pollNode (k : Nat) : Nat := k % 3 + 1

def pollSeq (k : Nat) : Byte := BitVec.ofNat 8 (k / 3)

variable {F D : Type} [CFloat F] [CDouble F D]

def Initiator.frameSeqNb (s : Initiator D) : Nat → Byte
  | 1 => s.frameSeqNb1
  | 2 => s.frameSeqNb2
  | 3 => s.frameSeqNb3
  | _ => 0

theorem node_cases {n : Nat} (hlow : 1 ≤ n) (hhigh : n ≤ 3) : n = 1 ∨ n = 2 ∨ n = 3 := by
  omega

theorem update_pollFrame (m n : Nat) (old seq : Byte) :
    Function.update (Function.update (Function.update (pollFrame m old)
      5 (nodeAddress n).1) 6 (nodeAddress n).2) 2 seq = pollFrame n seq := by
  funext i
  fin_cases i <;> rfl

theorem update_respTemplate (m n : Nat) :
    Function.update (Function.update (respTemplate m) 7 (nodeAddress n).1)
      8 (nodeAddress n).2 = respTemplate n := by
  funext i
  fin_cases i <;> rfl

/-- The three branches of `target_node_select` are one, at the node's address
and at the node's own counter. -/
theorem targetNodeSelect_eq {n : Nat} (hlow : 1 ≤ n) (hhigh : n ≤ 3) (s : Initiator D) :
    targetNodeSelect n s =
      selectAddress (nodeAddress n).1 (nodeAddress n).2 (s.frameSeqNb n) s := by
  rcases node_cases hlow hhigh with rfl | rfl | rfl
  all_goals rfl

/-- `frame_incr` advances the counter of its node and no other. -/
theorem frameIncr_frameSeqNb {n : Nat} (hlow : 1 ≤ n) (hhigh : n ≤ 3) (s : Initiator D)
    (m : Nat) (hm : 1 ≤ m ∧ m ≤ 3) :
    (frameIncr n s).frameSeqNb m =
      if m = n then s.frameSeqNb m + 1 else s.frameSeqNb m := by
  rcases node_cases hlow hhigh with rfl | rfl | rfl
  all_goals
    rcases node_cases hm.1 hm.2 with rfl | rfl | rfl
    all_goals rfl

/-- The state once `k` calls have returned. -/
structure Rotation (k : Nat) (s : Initiator D) : Prop where
  targetNode : s.targetNode = if k = 0 then 0 else pollNode (k - 1)
  pollMsg : ∃ n seq, s.txPollMsg = pollFrame n seq
  respMsg : ∃ n, s.rxRespMsg = respTemplate n
  counter : ∀ n, 1 ≤ n → n ≤ 3 → s.frameSeqNb n = BitVec.ofNat 8 ((k + 3 - n) / 3)

omit [CFloat F] in
theorem powerOn_rotation : Rotation 0 (powerOn : Initiator D) where
  targetNode := rfl
  pollMsg := ⟨1, 0, rfl⟩
  respMsg := ⟨1, rfl⟩
  counter n hlow hhigh := by
    rcases node_cases hlow hhigh with rfl | rfl | rfl
    all_goals rfl

/-- What call `k + 1` has done when it enters the wait loop. -/
structure Polled (k : Nat) (s s' : Initiator D) : Prop where
  targetNode : s'.targetNode = pollNode k
  pollMsg : s'.txPollMsg = pollFrame (pollNode k) (pollSeq k)
  respMsg : s'.rxRespMsg = respTemplate (pollNode k)
  counter : ∀ n, s'.frameSeqNb n = s.frameSeqNb n

theorem pollNode_range (k : Nat) : 1 ≤ pollNode k ∧ pollNode k ≤ 3 := by
  unfold pollNode
  omega

theorem nextNode_of_rotation {k : Nat} {s : Initiator D} (h : Rotation k s) :
    nextNode s.targetNode = pollNode k := by
  rw [h.targetNode]
  unfold nextNode pollNode
  split <;> split <;> omega

theorem startPoll_polled {k : Nat} {s : Initiator D} (h : Rotation k s) :
    Polled k s (startPoll s) := by
  obtain ⟨hlow, hhigh⟩ := pollNode_range k
  have hseq : s.frameSeqNb (pollNode k) = pollSeq k := by
    rw [h.counter _ hlow hhigh, pollSeq]
    congr 1
    unfold pollNode
    omega
  have hstart : startPoll s = { selectAddress (nodeAddress (pollNode k)).1
      (nodeAddress (pollNode k)).2 (pollSeq k) { s with targetNode := pollNode k } with
      txCount := s.txCount + 1 } := by
    rw [← hseq]
    simp only [startPoll, nextNode_of_rotation h]
    rw [targetNodeSelect_eq hlow hhigh]
    rfl
  obtain ⟨m, old, hpoll⟩ := h.pollMsg
  obtain ⟨m', hresp⟩ := h.respMsg
  rw [hstart]
  refine ⟨rfl, ?_, ?_, ?_⟩
  · simp only [selectAddress, hpoll, update_pollFrame]
  · simp only [selectAddress, hresp, update_respTemplate]
  · intro n
    unfold Initiator.frameSeqNb
    split <;> rfl

/-- What call `k + 1` shows and leaves behind, on every outcome. -/
structure Scheduled (k : Nat) (s : Initiator D) (x : Exchange D) (s' : Initiator D) : Prop where
  node : x.node = pollNode k
  txFrame : x.txFrame = pollFrame (pollNode k) (pollSeq k)
  txWrite : ⟨txBufferId, 0, pollHeader (pollNode k) (pollSeq k)⟩ ∈ x.pollWrites
  respTemplate : x.respTemplate = respTemplate (pollNode k)
  checked : x.ranging.isSome ↔ x.statusWord &&& sysStatusRxfcg ≠ 0 ∧
    SameBytes allMsgCommonLen s'.rxBuffer (Uwb.respTemplate (pollNode k))
  counter : ∀ n, 1 ≤ n ∧ n ≤ 3 →
    s'.frameSeqNb n = if n = pollNode k then s.frameSeqNb n + 1 else s.frameSeqNb n

theorem pollWrites_header {s : Initiator D} {n : Nat} {seq : Byte}
    (h : s.txPollMsg = pollFrame n seq) :
    ⟨txBufferId, 0, pollHeader n seq⟩ ∈ pollWrites s := by
  have hdata : dwtWritetxdata s.txPollMsg 0 = [⟨txBufferId, 0, pollHeader n seq⟩] := by
    rw [h]
    rfl
  simp [pollWrites, hdata]

/-- One step of the schedule: the call polls as call `k + 1` should, and the
invariant holds for the next one. -/
theorem ssInitRun_rotation {k : Nat} {s s' : Initiator D} {radio : Radio} {x : Exchange D}
    (h : Rotation k s) (hrun : ssInitRun s radio = some (x, s')) :
    Scheduled k s x s' ∧ Rotation (k + 1) s' := by
  obtain ⟨hlow, hhigh⟩ := pollNode_range k
  obtain ⟨status, _, hfinish⟩ := ssInitRun_eq_some.mp hrun
  have hpolled := startPoll_polled h
  have hframe := finishRun_frame radio status (startPoll s)
  have hchecked := finishRun_checked radio status (startPoll s)
  rw [hfinish] at hframe hchecked
  obtain ⟨⟨hnode, htx, hresp, hwrites, hword⟩, ⟨hnode', htx', hresp'⟩, h1, h2, h3⟩ := hframe
  dsimp only at hchecked
  rw [← hword, hresp, hpolled.respMsg] at hchecked
  rw [hpolled.targetNode] at hnode hnode' h1 h2 h3
  have hcounter : ∀ n, 1 ≤ n ∧ n ≤ 3 → s'.frameSeqNb n =
      if n = pollNode k then s.frameSeqNb n + 1 else s.frameSeqNb n := by
    intro n hn
    have hincr := frameIncr_frameSeqNb hlow hhigh (startPoll s) n hn
    rw [hpolled.counter n] at hincr
    rw [← hincr]
    rcases node_cases hn.1 hn.2 with rfl | rfl | rfl
    · exact h1
    · exact h2
    · exact h3
  have hresp := hresp.trans hpolled.respMsg
  refine ⟨⟨hnode, htx.trans hpolled.pollMsg, ?_, hresp, hchecked, hcounter⟩, ?_⟩
  · rw [hwrites]
    exact pollWrites_header hpolled.pollMsg
  · refine ⟨hnode', ⟨_, _, htx'.trans hpolled.pollMsg⟩, ⟨_, hresp'.trans hpolled.respMsg⟩, ?_⟩
    intro n hn1 hn3
    rw [hcounter n ⟨hn1, hn3⟩, h.counter n hn1 hn3]
    split
    · next hpoll =>
        -- the node that was polled is due again three calls later
        have hone : (1 : Byte) = BitVec.ofNat 8 1 := rfl
        rw [hone, ← BitVec.ofNat_add]
        congr 1
        unfold pollNode at hpoll
        omega
    · next hpoll =>
        congr 1
        unfold pollNode at hpoll
        omega

theorem rotation_step (k : Nat) (s : Initiator D) (radio : Radio) (x : Exchange D)
    (s' : Initiator D) (h : Rotation k s) (hrun : ssInitRun s radio = some (x, s')) :
    Rotation (k + 1) s' :=
  (ssInitRun_rotation h hrun).2

theorem call_rotation {rs : List Radio} {k : Nat} {c : Call (Initiator D) Radio (Exchange D)}
    (hc : (calls ssInitRun powerOn rs)[k]? = some c) :
    Rotation k c.before ∧ Scheduled k c.before c.output c.after := by
  obtain ⟨hbefore, _, hrun⟩ := calls_indexed Rotation rotation_step 0 powerOn_rotation rs hc
  rw [Nat.zero_add] at hbefore
  exact ⟨hbefore, (ssInitRun_rotation hbefore hrun).1⟩

theorem endState_rotation (rs : List Radio) :
    Rotation (calls ssInitRun (powerOn : Initiator D) rs).length
      (endState ssInitRun (powerOn : Initiator D) rs) := by
  have h := endState_indexed Rotation (rotation_step (D := D)) 0 powerOn_rotation rs
  rwa [Nat.zero_add] at h

/-- The nodes polled and the numbers sent, over a whole run. -/
theorem polls_eq (rs : List Radio) :
    (calls ssInitRun (powerOn : Initiator D) rs).map
        (fun c => (c.output.node, c.output.frameSeqNb)) =
      (List.range (calls ssInitRun (powerOn : Initiator D) rs).length).map
        (fun k => (pollNode k, pollSeq k)) := by
  apply calls_map_eq_range
  intro k c hc
  obtain ⟨_, hsched⟩ := call_rotation hc
  rw [Exchange.frameSeqNb, hsched.node, hsched.txFrame]
  rfl

/-- Three calls in a row visit the three nodes, wherever the rotation stands. -/
theorem func4_polls {k : Nat} {s : Initiator D} (h : Rotation k s) (first second third : Radio)
    (hreturn : (func4 s first second third).length = 3) :
    ((func4 s first second third).map (·.output.node)).Perm [1, 2, 3] := by
  have hmap : (func4 s first second third).map (·.output.node) =
      (List.range (func4 s first second third).length).map (fun j => pollNode (k + j)) := by
    apply calls_map_eq_range
    intro j c hc
    obtain ⟨hbefore, _, hrun⟩ := calls_indexed Rotation rotation_step k h _ hc
    exact (ssInitRun_rotation hbefore hrun).1.node
  have hnodes : (func4 s first second third).map (·.output.node) =
      [pollNode k, pollNode (k + 1), pollNode (k + 2)] := by
    rw [hmap, hreturn]
    rfl
  have hcase : k % 3 = 0 ∨ k % 3 = 1 ∨ k % 3 = 2 := by omega
  rw [hnodes]
  unfold pollNode
  rcases hcase with hk | hk | hk
  · rw [hk, show (k + 1) % 3 = 1 by omega, show (k + 2) % 3 = 2 by omega]
  · rw [hk, show (k + 1) % 3 = 2 by omega, show (k + 2) % 3 = 0 by omega]
    decide
  · rw [hk, show (k + 1) % 3 = 0 by omega, show (k + 2) % 3 = 1 by omega]
    decide

/-- The sequence numbers of the polls to one node, in order. -/
def seqsTo (n : Nat) (cs : List (Call (Initiator D) Radio (Exchange D))) : List Byte :=
  ((cs.map fun c => (c.output.node, c.output.frameSeqNb)).filter (·.1 = n)).map (·.2)

private theorem filter_pollNode {n : Nat} (hlow : 1 ≤ n) (hhigh : n ≤ 3) (len : Nat) :
    (((List.range len).map fun k => (pollNode k, pollSeq k)).filter (·.1 = n)).map (·.2) =
      (List.range ((len + 3 - n) / 3)).map (BitVec.ofNat 8) := by
  induction len with
  | zero =>
      have : (0 + 3 - n) / 3 = 0 := by omega
      simp [this]
  | succ len ih =>
      rw [List.range_succ, List.map_append, List.filter_append, List.map_append, ih]
      by_cases hpoll : pollNode len = n
      · have hnext : (len + 1 + 3 - n) / 3 = (len + 3 - n) / 3 + 1 := by
          unfold pollNode at hpoll
          omega
        have hseq : len / 3 = (len + 3 - n) / 3 := by
          unfold pollNode at hpoll
          omega
        rw [hnext, List.range_succ, List.map_append]
        simp [hpoll, pollSeq, hseq]
      · have hnext : (len + 1 + 3 - n) / 3 = (len + 3 - n) / 3 := by
          unfold pollNode at hpoll
          omega
        simp [hpoll, hnext]

/-- A window of at most 256 consecutive numbers has no repetition modulo 256. -/
private theorem window_nodup {m : Nat} {w : List Byte}
    (h : w <:+: (List.range m).map (BitVec.ofNat 8)) (hlen : w.length ≤ 256) : w.Nodup := by
  obtain ⟨front, back, hsplit⟩ := h
  have hget (i : Nat) (hi : i < w.length) : w[i] = BitVec.ofNat 8 (front.length + i) := by
    have hall : front.length + i < (front ++ w ++ back).length := by simp; omega
    have hleft : (front ++ w ++ back)[front.length + i] = w[i] := by
      rw [List.getElem_append_left (by simp; omega), List.getElem_append_right (by omega)]
      simp
    rw [← hleft]
    simp only [hsplit, List.getElem_map, List.getElem_range]
  rw [List.nodup_iff_injective_get]
  intro i j hij
  have heq : BitVec.ofNat 8 (front.length + i.val) = BitVec.ofNat 8 (front.length + j.val) := by
    rw [← hget i.val i.isLt, ← hget j.val j.isLt]
    exact hij
  have hmod := congrArg BitVec.toNat heq
  simp only [BitVec.toNat_ofNat] at hmod
  apply Fin.ext
  have hi := i.isLt
  have hj := j.isLt
  omega

theorem seqsTo_window_nodup {n : Nat} (hlow : 1 ≤ n) (hhigh : n ≤ 3) (rs : List Radio)
    {w : List Byte} (hw : w <:+: seqsTo n (calls ssInitRun (powerOn : Initiator D) rs))
    (hlen : w.length ≤ 256) : w.Nodup := by
  rw [seqsTo, polls_eq, filter_pollNode hlow hhigh] at hw
  exact window_nodup hw hlen

/-- The whole schedule. Call `k` polls node `(k - 1) % 3 + 1` with sequence
number `(k - 1) / 3` modulo 256 whatever the earlier calls saw, a call that has
not returned yet included; a `func4` run visits every node once, and 256
consecutive polls to one node carry different numbers. -/
theorem ssInitRun_schedule (rs : List Radio) :
    (∀ k c, 1 ≤ k → (calls ssInitRun (powerOn : Initiator D) rs)[k - 1]? = some c →
      Scheduled (k - 1) c.before c.output c.after) ∧
    Polled (calls ssInitRun (powerOn : Initiator D) rs).length
      (endState ssInitRun (powerOn : Initiator D) rs)
      (startPoll (endState ssInitRun powerOn rs)) ∧
    (∀ first second third,
      (func4 (endState ssInitRun (powerOn : Initiator D) rs) first second third).length = 3 →
      ((func4 (endState ssInitRun (powerOn : Initiator D) rs) first second third).map
        (·.output.node)).Perm [1, 2, 3]) ∧
    ∀ n w, 1 ≤ n → n ≤ 3 → w <:+: seqsTo n (calls ssInitRun (powerOn : Initiator D) rs) →
      w.length = 256 → w.Nodup := by
  refine ⟨?_, startPoll_polled (endState_rotation rs), ?_, ?_⟩
  · intro k c _ hc
    exact (call_rotation hc).2
  · intro first second third hreturn
    exact func4_polls (endState_rotation rs) first second third hreturn
  · intro n w hlow hhigh hw hlen
    exact seqsTo_window_nodup hlow hhigh rs hw (Nat.le_of_eq hlen)

theorem ssInitRun_timeoutRadio (s : Initiator D) : (ssInitRun s timeoutRadio).isSome = true := rfl

theorem calls_timeoutRadio_length (s : Initiator D) (len : Nat) :
    (calls ssInitRun s (List.replicate len timeoutRadio)).length = len := by
  rw [calls_length_eq, List.length_replicate]
  intro s' radio hradio
  rw [List.eq_of_mem_replicate hradio]
  exact ssInitRun_timeoutRadio s'

/-- 256 polls to each node, all timed out. -/
theorem ssInitRun_schedule_timeouts :
    (∃ c, (calls ssInitRun (powerOn : Initiator ℚ) (List.replicate 768 timeoutRadio))[3]? =
      some c ∧ Scheduled 3 c.before c.output c.after) ∧
    ((func4 (endState ssInitRun (powerOn : Initiator ℚ) (List.replicate 768 timeoutRadio))
      timeoutRadio timeoutRadio timeoutRadio).map (·.output.node)).Perm [1, 2, 3] ∧
    (seqsTo 1 (calls ssInitRun (powerOn : Initiator ℚ)
      (List.replicate 768 timeoutRadio))).Nodup := by
  obtain ⟨hcall, _, hfunc4, hwindow⟩ :=
    ssInitRun_schedule (D := ℚ) (List.replicate 768 timeoutRadio)
  have hlen := calls_timeoutRadio_length (powerOn : Initiator ℚ) 768
  have hthird : 3 < (calls ssInitRun (powerOn : Initiator ℚ)
      (List.replicate 768 timeoutRadio)).length := by omega
  refine ⟨⟨_, List.getElem?_eq_getElem hthird, ?_⟩, ?_, ?_⟩
  · exact hcall 4 _ (by decide) (List.getElem?_eq_getElem hthird)
  · exact hfunc4 _ _ _ (calls_timeoutRadio_length _ 3)
  · refine hwindow 1 _ (by decide) (by decide) (List.infix_refl _) ?_
    rw [seqsTo, polls_eq, filter_pollNode (by decide) (by decide), hlen]
    simp

end Breadcrumb.Uwb
