import Breadcrumb.Machine.BoundedQueue
import Breadcrumb.Uwb.Ranging
import Breadcrumb.Host.CommandStream

/-!
Ranging requests between the two contexts of `main.c`. Keys are handled in the
timer interrupt that polls the RTT input; key `3` puts `func4` into the queue of
the application scheduler and does not look at the result. The main loop takes
the requests out and runs them, and may be interrupted anywhere.
-/

namespace Breadcrumb.Host

open Breadcrumb.Machine Breadcrumb.Mesh Breadcrumb.Uwb

def schedQueueSize : Nat := 10

/-- The one handler the program schedules. -/
inductive SchedHandler where
  | func4
  deriving DecidableEq

/-- Where the main loop stands: in `app_sched_execute` between two events, in
`sd_app_evt_wait`, or in `func4` behind some calls of `ss_init_run`. -/
inductive MainLoop where
  | schedExecute
  | evtWait
  | func4 (done : Nat)
  deriving DecidableEq

/-- The scheduler is known by its queue `S` only. -/
structure Firmware (S D : Type) where
  console : Console
  sched : S
  mainLoop : MainLoop
  uwb : Initiator D

/-- The host writes, the timer interrupt polls, or the main loop goes on, with
what the DW1000 answers if that is in `ss_init_run`. -/
inductive Activity where
  | host (action : HostAction)
  | mainLoop (radio : Radio)

/-- What a case of `button_event_handler` hands to `app_sched_event_put`. -/
def buttonRequest (buttonNumber : Nat) : Option SchedHandler :=
  match buttonNumber + 1 with
  | 3 => some .func4
  | _ => none

def keyRequest (key : Byte) : Option SchedHandler :=
  if IsKey key then buttonRequest (key - chr '1').toNat else none

/-- The key that `rtt_input` finds. -/
def polledKey (c : Console) : HostAction → Option Byte
  | .write _ => none
  | .tick => c.channel.head?

section Program

variable {S F D : Type} [CFloat F] [CDouble F D]
  (q : BoundedQueue schedQueueSize SchedHandler S)

/-- `app_sched_event_put(NULL, 0, handler);` -/
def putRequest (request : Option SchedHandler) (sched : S) : S :=
  match request with
  | none => sched
  | some handler => (q.put handler sched).2

def startHandler : SchedHandler → MainLoop
  | .func4 => .func4 0

/-- One step of `main` behind the initialisation, and the handler it starts. A
call of `ss_init_run` that does not return leaves the main loop where it is. -/
def mainLoopStep (radio : Radio) (f : Firmware S D) : Option SchedHandler × Firmware S D :=
  match f.mainLoop with
  | .evtWait => (none, { f with mainLoop := .schedExecute })
  | .schedExecute =>
      match q.take f.sched with
      | none => (none, { f with mainLoop := .evtWait })
      | some (handler, sched) =>
          (some handler, { f with sched := sched, mainLoop := startHandler handler })
  | .func4 done =>
      if done < 3 then
        match ssInitRun f.uwb radio with
        | none => (none, f)
        | some (_, uwb) => (none, { f with mainLoop := .func4 (done + 1), uwb := uwb })
      else (none, { f with mainLoop := .schedExecute })

def hostActionStep (action : HostAction) (f : Firmware S D) : Firmware S D :=
  { f with
    console := hostStep f.console action
    sched := putRequest q ((polledKey f.console action).bind keyRequest) f.sched }

def firmwareStep : Step (Firmware S D) Activity (Option SchedHandler)
  | f, .host action => some (none, hostActionStep q action f)
  | f, .mainLoop radio => some (mainLoopStep q radio f)

/-- In front of the main loop, with a host that will write `stream`. -/
def boot (stream : List Byte) : Firmware S D :=
  ⟨connect stream, q.empty, .schedExecute, powerOn⟩

abbrev FirmwareCall (S D : Type) := Call (Firmware S D) Activity (Option SchedHandler)

/-- The runs of `func4` started so far. -/
def startedRuns (cs : List (FirmwareCall S D)) : Nat := (cs.filterMap (·.output)).length

/-- The events of key `3` handled so far. -/
def handledRanges (f : Firmware S D) : Nat := f.console.events.count .range

/-- The key an activity hands to `app_rtt_input_handler`. -/
def callKey (c : FirmwareCall S D) : Option Byte :=
  match c.input with
  | .host action => polledKey c.before.console action
  | .mainLoop _ => none

/-- What an activity offers to the scheduler. -/
def request (c : FirmwareCall S D) : Option SchedHandler := (callKey c).bind keyRequest

/-- Key `3` is polled while the queue of the scheduler is full. -/
def RequestLost (c : FirmwareCall S D) : Prop :=
  callKey c = some (chr '3') ∧ schedQueueSize ≤ (q.contents c.before.sched).length

instance (c : FirmwareCall S D) : Decidable (RequestLost q c) :=
  inferInstanceAs (Decidable (_ ∧ _))

theorem keyRequest_other {key : Byte} (h : key ≠ chr '3') : keyRequest key = none := by
  by_cases hkey : IsKey key
  · rcases isKey_iff.mp hkey with rfl | rfl | rfl | rfl
    · rfl
    · rfl
    · exact absurd rfl h
    · rfl
  · exact if_neg hkey

theorem appRttInputHandler_events (key : Byte) (c : Console) :
    (appRttInputHandler key c).events = c.events ++ (keyEvent key).toList := by
  rcases eq_or_ne key (chr '2') with rfl | hother
  · rfl
  · rw [appRttInputHandler_other hother]

/-- A key counts as handled range exactly if it makes a request. -/
theorem keyEvent_count (key : Byte) :
    (keyEvent key).toList.count .range = (keyRequest key).toList.length := by
  rcases eq_or_ne key (chr '3') with rfl | hother
  · rfl
  · rw [keyRequest_other hother]
    unfold keyEvent
    rw [if_neg hother]
    split
    · rfl
    · split
      · rfl
      · split
        · rfl
        · rfl

theorem hostStep_count (action : HostAction) (c : Console) :
    (hostStep c action).events.count .range =
      c.events.count .range + ((polledKey c action).bind keyRequest).toList.length := by
  cases action with
  | write count => rfl
  | tick =>
      cases hchannel : c.channel with
      | nil => simp [hostStep, polledKey, hchannel]
      | cons key rest =>
          have hkey : (polledKey c .tick).bind keyRequest = keyRequest key := by
            simp [polledKey, hchannel]
          rw [hkey, ← keyEvent_count, ← List.count_append]
          simp only [hostStep, hchannel, appRttInputHandler_events]

/-- The main loop handles no keys. -/
theorem mainLoopStep_console (radio : Radio) (f : Firmware S D) :
    (mainLoopStep q radio f).2.console = f.console := by
  unfold mainLoopStep
  split
  · rfl
  · split
    · rfl
    · rfl
  · split
    · split
      · rfl
      · rfl
    · rfl

theorem firmwareStep_count (f : Firmware S D) (activity : Activity)
    (started : Option SchedHandler) (f' : Firmware S D)
    (h : firmwareStep q f activity = some (started, f')) :
    handledRanges f' =
      handledRanges f + (request ⟨f, activity, started, f'⟩).toList.length := by
  cases activity with
  | host action =>
      cases h
      exact hostStep_count action f.console
  | mainLoop radio =>
      have hstep : mainLoopStep q radio f = (started, f') := Option.some.inj h
      have hconsole := mainLoopStep_console q radio f
      rw [hstep] at hconsole
      unfold handledRanges
      rw [hconsole]
      rfl

theorem putRequest_move (request : Option SchedHandler) (sched : S) :
    q.Move sched request none (putRequest q request sched) := by
  cases request with
  | none => exact .idle sched
  | some handler => exact .put sched handler

theorem mainLoopStep_move (radio : Radio) (f : Firmware S D) :
    q.Move f.sched none (mainLoopStep q radio f).1 (mainLoopStep q radio f).2.sched := by
  unfold mainLoopStep
  split
  · exact .idle f.sched
  · split
    · exact .idle f.sched
    · next handler sched htake => exact .take f.sched sched handler htake
  · split
    · split
      · exact .idle f.sched
      · exact .idle f.sched
    · exact .idle f.sched

/-- Each activity makes one move of the scheduler's queue at most. -/
theorem firmwareStep_move (f : Firmware S D) (activity : Activity)
    (started : Option SchedHandler) (f' : Firmware S D)
    (h : firmwareStep q f activity = some (started, f')) :
    q.Move f.sched (request ⟨f, activity, started, f'⟩) started f'.sched := by
  cases activity with
  | host action =>
      cases h
      exact putRequest_move q _ f.sched
  | mainLoop radio =>
      have hstep : mainLoopStep q radio f = (started, f') := Option.some.inj h
      have hmove := mainLoopStep_move q radio f
      rw [hstep] at hmove
      exact hmove

theorem refused_iff (c : FirmwareCall S D) :
    q.Refused Firmware.sched request c ↔ RequestLost q c := by
  apply and_congr_left
  intro _
  unfold request
  cases callKey c with
  | none => simp
  | some key =>
      rw [Option.bind_some]
      rcases eq_or_ne key (chr '3') with rfl | hother
      · exact iff_of_true rfl rfl
      · rw [keyRequest_other hother]
        simp [hother]

/-- Started and queued runs make up for all ranges handled exactly if no key `3`
was polled at a full queue. -/
theorem rangeRequests_conserved_iff (stream : List Byte) (activities : List Activity) :
    startedRuns (calls (firmwareStep q) (boot q stream : Firmware S D) activities) +
        (q.contents (endState (firmwareStep q) (boot q stream : Firmware S D) activities).sched).length =
      handledRanges (endState (firmwareStep q) (boot q stream : Firmware S D) activities) ↔
    ∀ c ∈ calls (firmwareStep q) (boot q stream : Firmware S D) activities, ¬ RequestLost q c := by
  have hhandled := endState_count handledRanges request (firmwareStep_count q)
    (boot q stream : Firmware S D) activities
  have hnone : handledRanges (boot q stream : Firmware S D) = 0 := rfl
  rw [hnone, Nat.zero_add] at hhandled
  have hempty : q.contents (boot q stream : Firmware S D).sched = [] := q.contents_empty
  have hconserved := q.conserved_iff Firmware.sched request Call.output (firmwareStep_move q)
    hempty activities
  simp only [refused_iff] at hconserved
  rw [hhandled]
  exact hconserved

/-- The scheduler's queue as a list. -/
abbrev listSched : BoundedQueue schedQueueSize SchedHandler (List SchedHandler) :=
  listQueue schedQueueSize SchedHandler

/-- The calls and the last state of a run on that queue. -/
abbrev listCalls (stream : List Byte) (activities : List Activity) :
    List (FirmwareCall (List SchedHandler) ℚ) :=
  calls (firmwareStep listSched) (boot listSched stream) activities

abbrev listEnd (stream : List Byte) (activities : List Activity) :
    Firmware (List SchedHandler) ℚ :=
  endState (firmwareStep listSched) (boot listSched stream) activities

/-- Eleven `3` while the main loop does not come round: the last is neither queued
nor run. -/
theorem rangeRequests_burst :
    ¬ ∀ stream activities,
      startedRuns (listCalls stream activities) + (listEnd stream activities).sched.length =
        handledRanges (listEnd stream activities) := by
  intro hconserved
  have hburst := hconserved (List.replicate 11 (chr '3'))
    (.host (.write 11) :: List.replicate 11 (.host .tick))
  exact absurd hburst (by decide +kernel)

/-- Three `3`, the last of them while the first runs. -/
theorem rangeRequests_conserved_iff_interrupted :
    startedRuns (listCalls (List.replicate 3 (chr '3')) [.host (.write 3), .host .tick,
      .host .tick, .mainLoop timeoutRadio, .mainLoop timeoutRadio, .host .tick]) +
      (listEnd (List.replicate 3 (chr '3')) [.host (.write 3), .host .tick,
        .host .tick, .mainLoop timeoutRadio, .mainLoop timeoutRadio, .host .tick]).sched.length =
      handledRanges (listEnd (List.replicate 3 (chr '3')) [.host (.write 3), .host .tick,
        .host .tick, .mainLoop timeoutRadio, .mainLoop timeoutRadio, .host .tick]) :=
  (rangeRequests_conserved_iff listSched _ _).mpr (by decide +kernel)

end Program

end Breadcrumb.Host
