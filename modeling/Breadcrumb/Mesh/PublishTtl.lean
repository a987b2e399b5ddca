import Breadcrumb.Machine.Run
import Breadcrumb.Mesh.ChatCli

/-!
The publish TTL around a ping. The TTL belongs to a model and is kept by the
access layer, where the configuration server sets it too. `pingNeighbors` means to
change it for one message and to change it back, but its calls leave an argument
out, so that the TTL arrives as a handle and the TTL itself is anything.
-/

namespace Breadcrumb.Mesh

open Breadcrumb.Machine

abbrev Ttl := BitVec 8

/-- The publish TTL of every model, by handle. -/
abbrev TtlTable := Word16 → Option Ttl

/-- Set the TTL of a model; a handle no model has is refused. -/
def setTtl (ttls : TtlTable) (handle : Word16) (ttl : Ttl) : TtlTable :=
  if (ttls handle).isSome then Function.update ttls handle (some ttl) else ttls

/-- What the program relies on of the access layer, whatever its state. -/
structure AccessLayer (S : Type*) where
  publishTtl : S → TtlTable
  accessModelPublishTtlSet : Word16 → Ttl → S → S
  accessModelPublish : Word16 → AccessMessageTx → S → S
  publishTtl_set : ∀ handle ttl s,
    publishTtl (accessModelPublishTtlSet handle ttl s) = setTtl (publishTtl s) handle ttl
  publishTtl_publish : ∀ handle packet s,
    publishTtl (accessModelPublish handle packet s) = publishTtl s

/-- An access layer that is its table. -/
def tableLayer : AccessLayer TtlTable where
  publishTtl ttls := ttls
  accessModelPublishTtlSet handle ttl ttls := setTtl ttls handle ttl
  accessModelPublish _ _ ttls := ttls
  publishTtl_set _ _ _ := rfl
  publishTtl_publish _ _ _ := rfl

structure Sent where
  packet : AccessMessageTx
  ttl : Ttl
  deriving DecidableEq

/-- What the program leaves open: the value in place of the argument that each call
omits, and whether `access_model_publish` succeeds. -/
structure Answer where
  omitted : Nat → Ttl
  published : Bool

inductive Request where
  | configure (handle : Word16) (ttl : Ttl)
  | message (buf : Buffer 100)
  | ping (ttl : Int) (addr : Word16)

structure Action where
  request : Request
  answer : Answer

/-- `chat.model_handle`, the unicast address of the node, and the constant
`ACCESS_TTL_USE_DEFAULT` of the access layer. -/
structure Node where
  modelHandle : Word16
  localAddr : Word16
  accessTtlUseDefault : Int

section Program

variable {S : Type*} (L : AccessLayer S) (node : Node)

/-- The first argument of `access_model_publish_ttl_set` is a handle. -/
def ttlHandle : PublishTtl → Word16
  | .hops ttl => BitVec.ofInt 16 ttl
  | .useDefault => BitVec.ofInt 16 node.accessTtlUseDefault

/-- The `k`-th call of a sender: what leaves, and the state behind it. -/
def accessCall (answer : Answer) (k : Nat) (call : AccessCall) (s : S) : List Sent × S :=
  match call with
  | .publishTtlSet ttl =>
      ([], L.accessModelPublishTtlSet (ttlHandle node ttl) (answer.omitted k) s)
  | .publish packet =>
      (if answer.published then ((L.publishTtl s node.modelHandle).map (⟨packet, ·⟩)).toList
        else [], L.accessModelPublish node.modelHandle packet s)

def accessCalls (answer : Answer) : Nat → List AccessCall → S → List Sent × S
  | _, [], s => ([], s)
  | k, call :: later, s =>
      let first := accessCall L node answer k call s
      let rest := accessCalls answer (k + 1) later first.2
      (first.1 ++ rest.1, rest.2)

def senderCalls : Request → List AccessCall
  | .configure _ _ => []
  | .message buf => ((btMeshChatCliMessageSend buf).map AccessCall.publish).toList
  | .ping ttl addr => pingNeighbors node.localAddr ttl addr

def nodeStep (s : S) (action : Action) : List Sent × S :=
  match action.request with
  | .configure handle ttl => ([], L.accessModelPublishTtlSet handle ttl s)
  | request => accessCalls L node action.answer 0 (senderCalls node request) s

def runNode (s : S) (actions : List Action) : S :=
  actions.foldl (fun s action => (nodeStep L node s action).2) s

/-- What the configuration server has set, and nobody else. -/
def configure (ttls : TtlTable) : Request → TtlTable
  | .configure handle ttl => setTtl ttls handle ttl
  | _ => ttls

def configured (ttls : TtlTable) (requests : List Request) : TtlTable :=
  requests.foldl configure ttls

/-- One request, where the table `ttls` is configured: a ping leaves with its own TTL
and leaves the table alone, a message leaves with the configured TTL. -/
structure CallScoped (ttls : TtlTable) (s : S) (action : Action) : Prop where
  ping : ∀ ttl addr, action.request = .ping ttl addr →
    (∀ sent ∈ (nodeStep L node s action).1, (sent.ttl.toNat : Int) = ttl) ∧
      ∀ handle, L.publishTtl (nodeStep L node s action).2 handle = L.publishTtl s handle
  message : ∀ buf, action.request = .message buf →
    ∀ sent ∈ (nodeStep L node s action).1, some sent.ttl = ttls node.modelHandle

/-- All requests of a run. -/
def TtlScoped (s : S) (actions : List Action) : Prop :=
  ∀ front action rest, actions = front ++ action :: rest →
    CallScoped L node (configured (L.publishTtl s) (front.map Action.request))
      (runNode L node s front) action

/-- No model has the handle that either call of `pingNeighbors` names, and the TTL of
the chat model is the one of the ping already. -/
structure Harmless (ttls : TtlTable) (ttl : Int) : Prop where
  hops : ttls (BitVec.ofInt 16 ttl) = none
  useDefault : ttls (BitVec.ofInt 16 node.accessTtlUseDefault) = none
  chat : ∀ old ∈ ttls node.modelHandle, (old.toNat : Int) = ttl

/-- Every ping of a run, where the requests in front of it have configured the TTLs. -/
def AllHarmless (ttls : TtlTable) (requests : List Request) : Prop :=
  ∀ front request rest, requests = front ++ request :: rest →
    ∀ ttl addr, request = .ping ttl addr → Harmless node (configured ttls front) ttl

theorem setTtl_of_none {ttls : TtlTable} {handle : Word16} (h : ttls handle = none)
    (ttl : Ttl) : setTtl ttls handle ttl = ttls := by
  simp [setTtl, h]

theorem setTtl_self (ttls : TtlTable) (handle : Word16) (ttl : Ttl) :
    setTtl ttls handle ttl handle = (ttls handle).map fun _ => ttl := by
  cases h : ttls handle with
  | none => rw [setTtl_of_none h, h, Option.map_none]
  | some old => simp [setTtl, h]

theorem setTtl_of_ne {handle other : Word16} (h : other ≠ handle) (ttls : TtlTable)
    (ttl : Ttl) : setTtl ttls handle ttl other = ttls other := by
  unfold setTtl
  split
  · exact Function.update_of_ne h _ _
  · rfl

/-- The same TTL set at two handles: the first one holds it whether or not the second
is another. -/
theorem setTtl_setTtl_self (ttls : TtlTable) (first second : Word16) (ttl : Ttl) :
    setTtl (setTtl ttls first ttl) second ttl first = (ttls first).map fun _ => ttl := by
  by_cases h : first = second
  · subst h
    rw [setTtl_self, setTtl_self, Option.map_map]
    rfl
  · rw [setTtl_of_ne h, setTtl_self]

theorem eq_none_of_map_eq {stored : Option Ttl}
    (h : ∀ ttl, stored.map (fun _ => ttl) = stored) : stored = none := by
  cases stored with
  | none => rfl
  | some old => simpa using h (old + 1)

/-- Two handles set to one TTL, whichever it is: the table is left alone only where no
model has either. -/
theorem none_of_setTtl_setTtl {ttls : TtlTable} {first second : Word16}
    (h : ∀ ttl handle, setTtl (setTtl ttls first ttl) second ttl handle = ttls handle) :
    ttls first = none ∧ ttls second = none := by
  have hfirst : ttls first = none := by
    apply eq_none_of_map_eq
    intro ttl
    rw [← setTtl_setTtl_self, h]
  refine ⟨hfirst, eq_none_of_map_eq fun ttl => ?_⟩
  rw [← setTtl_self]
  simpa only [setTtl_of_none hfirst] using h ttl second

theorem mem_accessCall_publish {answer : Answer} {k : Nat} {packet : AccessMessageTx} {s : S}
    {sent : Sent} :
    sent ∈ (accessCall L node answer k (.publish packet) s).1 ↔
      answer.published = true ∧ sent.packet = packet ∧
        L.publishTtl s node.modelHandle = some sent.ttl := by
  obtain ⟨sentPacket, ttl⟩ := sent
  unfold accessCall
  cases answer.published with
  | false => simp
  | true => simp [eq_comm, and_comm]

/-- What leaves during a ping carries the TTL behind the first call. -/
theorem mem_nodeStep_ping {answer : Answer} {ttl : Int} {addr : Word16} {s : S} {sent : Sent} :
    sent ∈ (nodeStep L node s ⟨.ping ttl addr, answer⟩).1 ↔
      answer.published = true ∧ sent.packet = ⟨.ping, txPayload addr node.localAddr⟩ ∧
        setTtl (L.publishTtl s) (BitVec.ofInt 16 ttl) (answer.omitted 0) node.modelHandle =
          some sent.ttl := by
  have hcalls : (nodeStep L node s ⟨.ping ttl addr, answer⟩).1 =
      (accessCall L node answer 1 (.publish ⟨.ping, txPayload addr node.localAddr⟩)
        (L.accessModelPublishTtlSet (BitVec.ofInt 16 ttl) (answer.omitted 0) s)).1 := by
    simp [nodeStep, senderCalls, pingNeighbors, accessCalls, accessCall, ttlHandle]
  rw [hcalls, mem_accessCall_publish, L.publishTtl_set]

theorem publishTtl_ping (answer : Answer) (ttl : Int) (addr : Word16) (s : S) :
    L.publishTtl (nodeStep L node s ⟨.ping ttl addr, answer⟩).2 =
      setTtl (setTtl (L.publishTtl s) (BitVec.ofInt 16 ttl) (answer.omitted 0))
        (BitVec.ofInt 16 node.accessTtlUseDefault) (answer.omitted 2) := by
  simp only [nodeStep, senderCalls, pingNeighbors, accessCalls, accessCall, ttlHandle,
    L.publishTtl_set, L.publishTtl_publish]

theorem mem_nodeStep_message {answer : Answer} {buf : Buffer 100} {s : S} {sent : Sent}
    (h : sent ∈ (nodeStep L node s ⟨.message buf, answer⟩).1) :
    L.publishTtl s node.modelHandle = some sent.ttl := by
  cases hpacket : btMeshChatCliMessageSend buf with
  | none => simp [nodeStep, senderCalls, hpacket, accessCalls] at h
  | some packet =>
      have hsent : sent ∈ (accessCall L node answer 0 (.publish packet) s).1 := by
        simpa [nodeStep, senderCalls, hpacket, accessCalls] using h
      exact (mem_accessCall_publish L node |>.mp hsent).2.2

theorem publishTtl_message (answer : Answer) (buf : Buffer 100) (s : S) :
    L.publishTtl (nodeStep L node s ⟨.message buf, answer⟩).2 = L.publishTtl s := by
  cases hpacket : btMeshChatCliMessageSend buf with
  | none => simp [nodeStep, senderCalls, hpacket, accessCalls]
  | some packet =>
      simp [nodeStep, senderCalls, hpacket, accessCalls, accessCall, L.publishTtl_publish]

/-- A ping nobody can make go wrong, whatever stands for the arguments it omits. -/
theorem ping_scoped_iff (s : S) (ttl : Int) (addr : Word16) :
    (∀ answer, CallScoped L node (L.publishTtl s) s ⟨.ping ttl addr, answer⟩) ↔
      Harmless node (L.publishTtl s) ttl := by
  constructor
  · intro h
    have hnone := none_of_setTtl_setTtl fun omitted handle => by
      have hframe := ((h ⟨fun _ => omitted, true⟩).ping ttl addr rfl).2 handle
      rwa [publishTtl_ping] at hframe
    refine ⟨hnone.1, hnone.2, fun old hold => ?_⟩
    have hleaves := ((h ⟨fun _ => 0, true⟩).ping ttl addr rfl).1
      ⟨⟨.ping, txPayload addr node.localAddr⟩, old⟩
    apply hleaves
    rw [mem_nodeStep_ping, setTtl_of_none hnone.1]
    exact ⟨rfl, rfl, hold⟩
  · intro h answer
    constructor
    · intro ttl' addr' hping
      cases hping
      constructor
      · intro sent hsent
        rw [mem_nodeStep_ping, setTtl_of_none h.hops] at hsent
        exact h.chat sent.ttl hsent.2.2
      · intro handle
        rw [publishTtl_ping, setTtl_of_none h.hops, setTtl_of_none h.useDefault]
    · intro buf hmessage
      cases hmessage

theorem callScoped_configure (ttls : TtlTable) (s : S) (handle : Word16) (ttl : Ttl)
    (answer : Answer) : CallScoped L node ttls s ⟨.configure handle ttl, answer⟩ := by
  constructor
  · intro ttl' addr hping
    cases hping
  · intro buf hmessage
    cases hmessage

theorem callScoped_message (s : S) (buf : Buffer 100) (answer : Answer) :
    CallScoped L node (L.publishTtl s) s ⟨.message buf, answer⟩ := by
  constructor
  · intro ttl addr hping
    cases hping
  · intro buf' hmessage sent hsent
    cases hmessage
    exact (mem_nodeStep_message L node hsent).symm

/-- Step lemma: one request from a table that is the configured one. -/
theorem callScoped_iff (s : S) (request : Request) :
    (∀ answer, CallScoped L node (L.publishTtl s) s ⟨request, answer⟩) ↔
      ∀ ttl addr, request = .ping ttl addr → Harmless node (L.publishTtl s) ttl := by
  cases request with
  | configure handle ttl =>
      refine iff_of_true (callScoped_configure L node _ s handle ttl) ?_
      intro ttl' addr hping
      cases hping
  | message buf =>
      refine iff_of_true (callScoped_message L node s buf) ?_
      intro ttl addr hping
      cases hping
  | ping ttl addr =>
      rw [ping_scoped_iff]
      constructor
      · intro h ttl' addr' hping
        cases hping
        exact h
      · intro h
        exact h ttl addr rfl

/-- A scoped request leaves behind what the configuration server has set. -/
theorem nodeStep_configured {s : S} {action : Action}
    (h : CallScoped L node (L.publishTtl s) s action) :
    L.publishTtl (nodeStep L node s action).2 = configure (L.publishTtl s) action.request := by
  obtain ⟨request, answer⟩ := action
  cases request with
  | configure handle ttl => exact L.publishTtl_set handle ttl s
  | message buf => exact publishTtl_message L node answer buf s
  | ping ttl addr => exact funext (h.ping ttl addr rfl).2

theorem ttlScoped_cons_iff (s : S) (action : Action) (actions : List Action) :
    TtlScoped L node s (action :: actions) ↔
      CallScoped L node (L.publishTtl s) s action ∧
        TtlScoped L node (nodeStep L node s action).2 actions := by
  unfold TtlScoped
  rw [forall_split_cons_iff fun front action =>
    CallScoped L node (configured (L.publishTtl s) (front.map Action.request))
      (runNode L node s front) action]
  apply and_congr_right
  intro h
  rw [nodeStep_configured L node h]
  rfl

theorem allHarmless_cons_iff (ttls : TtlTable) (request : Request) (requests : List Request) :
    AllHarmless node ttls (request :: requests) ↔
      (∀ ttl addr, request = .ping ttl addr → Harmless node ttls ttl) ∧
        AllHarmless node (configure ttls request) requests :=
  forall_split_cons_iff (fun front (request : Request) =>
    ∀ ttl addr, request = .ping ttl addr → Harmless node (configured ttls front) ttl) _ _

/-- Run lemma. Pings leave with their own TTL and the configured ones stay, however the
omitted arguments come out, exactly where none of the pings can do anything. -/
theorem pingTtl_scoped_iff (s : S) (requests : List Request) :
    (∀ actions, actions.map Action.request = requests → TtlScoped L node s actions) ↔
      AllHarmless node (L.publishTtl s) requests := by
  induction requests generalizing s with
  | nil => simp [AllHarmless, TtlScoped]
  | cons request requests ih =>
      rw [allHarmless_cons_iff, ← callScoped_iff]
      constructor
      · intro h
        have hhead : ∀ answer, CallScoped L node (L.publishTtl s) s ⟨request, answer⟩ := by
          intro answer
          -- any answers will do behind the first
          have hrun := h (⟨request, answer⟩ :: requests.map (⟨·, answer⟩))
            (by simp [Function.comp_def])
          exact ((ttlScoped_cons_iff L node s _ _).mp hrun).1
        refine ⟨hhead, ?_⟩
        rw [← nodeStep_configured L node (hhead ⟨fun _ => 0, true⟩), ← ih]
        intro actions hactions
        have hrun := h (⟨request, ⟨fun _ => 0, true⟩⟩ :: actions)
          (by rw [List.map_cons, hactions])
        exact ((ttlScoped_cons_iff L node s _ _).mp hrun).2
      · rintro ⟨hhead, hrest⟩ actions hactions
        obtain ⟨action, later, rfl, rfl, hlater⟩ := List.map_eq_cons_iff.mp hactions
        rw [ttlScoped_cons_iff]
        refine ⟨hhead action.answer, ?_⟩
        rw [← nodeStep_configured L node (hhead action.answer), ← ih] at hrest
        exact hrest later hlater

end Program

/-- Three models with the TTL 5. -/
def threeModels : TtlTable := fun handle => if handle.toNat < 3 then some 5 else none

/-- The call of `main.c` with the chat model at handle 2: it leaves with 127 and the
chat model keeps that. -/
theorem pingNeighbors_broadcast :
    ¬ TtlScoped tableLayer ⟨2, 5, 0xFF⟩ threeModels
      [⟨.ping 2 0xFFFF, ⟨fun _ => 127, true⟩⟩] := by
  intro h
  have hping := (h [] _ [] rfl).ping 2 0xFFFF rfl
  exact absurd (hping.2 2) (by decide)

/-- The chat model is configured to the TTL of the ping, which is no handle. -/
theorem pingTtl_scoped_iff_configured :
    ∀ actions, actions.map Action.request = [.configure 0 3, .ping 3 0xFFFF] →
      TtlScoped tableLayer ⟨0, 5, 0xFF⟩ threeModels actions := by
  apply (pingTtl_scoped_iff tableLayer ⟨0, 5, 0xFF⟩ threeModels _).mpr
  rw [allHarmless_cons_iff, allHarmless_cons_iff]
  refine ⟨?_, ?_, by simp [AllHarmless]⟩
  · intro ttl addr hping
    cases hping
  · intro ttl addr hping
    cases hping
    exact ⟨by decide, by decide, by decide⟩

end Breadcrumb.Mesh
