import Breadcrumb.Machine.Network
import Breadcrumb.Mesh.ChatCli

/-!
Pings and their replies among any number of nodes that run this firmware, over
a mesh that loses, delays, reorders and duplicates.
-/

namespace Breadcrumb.Mesh

open Breadcrumb.Machine

/-- What a node does on its own account: key `1`, and key `2` with what its buffer
holds. -/
inductive MeshAction where
  | ping (ttl : Int) (target : Word16)
  | chat (buf : Buffer 100)

def published (accessCalls : List AccessCall) : List AccessMessageTx :=
  accessCalls.filterMap fun
    | .publish packet => some packet
    | .publishTtlSet _ => none

def replies (effects : List Effect) : List AccessMessageTx :=
  effects.filterMap fun
    | .reply packet => some packet
    | .log _ => none

variable {ι : Type*} (addr : ι → Word16)

/-- The firmware as a protocol: each node has one element, with its own address. -/
def firmware : Protocol ι AccessMessageTx MeshAction (List Effect) where
  send node
    | .ping ttl target => published (pingNeighbors (addr node) ttl target)
    | .chat buf => (btMeshChatCliMessageSend buf).toList
  handle node message effects := ∃ stack m, Delivers m message.payload ∧
    effects = (opcodeHandler stack (addr node) m message.opcode).effects
  replies := replies

abbrev PingEvent (ι : Type*) := Event ι AccessMessageTx MeshAction (List Effect)

/-- A ping in flight goes back to a call of `pingNeighbors`. -/
def PingOf (history : List (PingEvent ι)) (packet : Packet AccessMessageTx) : Prop :=
  ∃ x ttl target, .acted packet.action x (.ping ttl target) ∈ history ∧
    packet.message = ⟨.ping, txPayload target (addr x)⟩

/-- A reply from node `y` to node `x`: `x` has called `pingNeighbors` for everybody
or for `y`, and `y` has handled that ping. -/
structure ReplyOf (history : List (PingEvent ι)) (packet : Packet AccessMessageTx) (x y : ι) :
    Prop where
  message : packet.message = ⟨.pingReply, txPayload (addr x) (addr y)⟩
  distinct : addr y ≠ addr x
  pinged : ∃ ttl target, .acted packet.action x (.ping ttl target) ∈ history ∧
    (target = 0xFFFF ∨ target = addr y) ∧
    ∃ effects, .handled y ⟨⟨.ping, txPayload target (addr x)⟩, packet.action⟩ effects ∈ history

def Traced (history : List (PingEvent ι)) (packet : Packet AccessMessageTx) : Prop :=
  (packet.message.opcode = .ping → PingOf addr history packet) ∧
    (packet.message.opcode = .pingReply → ∃ x y, ReplyOf addr history packet x y)

/-- The words of a four-byte payload are what its sender put there. -/
theorem rxPayload_delivers {m : AccessMessageRx} {first second : Word16}
    (h : Delivers m (txPayload first second)) (stack : Buffer 4) :
    rxPayload (overlay stack m.length m.pData) 0 = first ∧
      rxPayload (overlay stack m.length m.pData) 1 = second := by
  obtain ⟨hlength, hbytes⟩ := h
  have hlength4 : m.length = 4 := hlength
  have hbyte (i : Fin 4) :
      overlay stack m.length m.pData i = pointer (txPayload first second) i.val := by
    rw [overlay_of_lt (by omega)]
    exact hbytes i.val i.isLt
  have hfirst : assemble 16 (leBytes 2 first) = first := assemble_leBytes_self first (by decide)
  have hsecond : assemble 16 (leBytes 2 second) = second :=
    assemble_leBytes_self second (by decide)
  constructor
  · rw [rxPayload, hbyte 0, hbyte 1]
    exact hfirst
  · rw [rxPayload, hbyte 2, hbyte 3]
    exact hsecond

theorem handlePing_replies {m : AccessMessageRx} {target source : Word16}
    (h : Delivers m (txPayload target source)) (stack : Buffer 4) (localAddr : Word16) :
    replies (handlePing stack localAddr m).effects =
      if source ≠ localAddr ∧ (target = 0xFFFF ∨ target = localAddr) then
        [⟨.pingReply, txPayload source localAddr⟩]
      else [] := by
  obtain ⟨hfirst, hsecond⟩ := rxPayload_delivers h stack
  simp only [handlePing, hfirst, hsecond]
  by_cases hown : source = localAddr
  · rw [if_pos hown, if_neg fun hanswer => hanswer.1 hown]
    rfl
  · by_cases hme : target = 0xFFFF ∨ target = localAddr
    · rw [if_neg hown, if_pos hme, if_pos ⟨hown, hme⟩]
      rfl
    · rw [if_neg hown, if_neg hme, if_neg fun hanswer => hme hanswer.2]
      rfl

theorem handlePingReply_effects {m : AccessMessageRx} {x y : Word16}
    (h : Delivers m (txPayload x y)) (stack : Buffer 4) (localAddr : Word16) :
    (handlePingReply stack localAddr m).effects =
      if x = localAddr then [.log (.pingFrom x y)] else [] := by
  obtain ⟨hfirst, hsecond⟩ := rxPayload_delivers h stack
  simp only [handlePingReply, hfirst, hsecond]
  split
  · rfl
  · rfl

/-- Only pings are answered. -/
theorem replies_of_not_ping {stack : Buffer 100} {localAddr : Word16} {m : AccessMessageRx}
    {opcode : Opcode} (h : opcode ≠ .ping) :
    replies (opcodeHandler stack localAddr m opcode).effects = [] := by
  cases opcode with
  | ping => exact absurd rfl h
  | message => rfl
  | privateMessage => rfl
  | messageReply => rfl
  | pingReply =>
      simp only [opcodeHandler, handlePingReply]
      split
      · rfl
      · rfl

/-- A ping is answered once at most, whatever its payload. -/
theorem replies_length_le (stack : Buffer 100) (localAddr : Word16) (m : AccessMessageRx)
    (opcode : Opcode) :
    (replies (opcodeHandler stack localAddr m opcode).effects).length ≤
      if opcode = .ping then 1 else 0 := by
  by_cases hping : opcode = .ping
  · subst hping
    simp only [opcodeHandler, handlePing]
    split
    · exact Nat.zero_le 1
    · split
      · exact Nat.le_refl 1
      · exact Nat.zero_le 1
  · rw [replies_of_not_ping hping]
    exact Nat.zero_le _

/-- What handling a traced packet sends is one reply, to a traced ping. -/
theorem handle_replies {history : List (PingEvent ι)} {packet : Packet AccessMessageTx} {y : ι}
    {effects : List Effect} {reply : AccessMessageTx} (htraced : Traced addr history packet)
    (hhandle : (firmware addr).handle y packet.message effects) (hreply : reply ∈ replies effects) :
    ∃ x ttl target, .acted packet.action x (.ping ttl target) ∈ history ∧
      packet.message = ⟨.ping, txPayload target (addr x)⟩ ∧ addr x ≠ addr y ∧
      (target = 0xFFFF ∨ target = addr y) ∧ reply = ⟨.pingReply, txPayload (addr x) (addr y)⟩ := by
  obtain ⟨stack, m, hdelivers, rfl⟩ := hhandle
  by_cases hping : packet.message.opcode = .ping
  · obtain ⟨x, ttl, target, hacted, hmessage⟩ := htraced.1 hping
    rw [hmessage] at hdelivers hreply
    rw [opcodeHandler, handlePing_replies hdelivers] at hreply
    split at hreply
    · next hanswer =>
        exact ⟨x, ttl, target, hacted, hmessage, hanswer.1, hanswer.2, List.mem_singleton.mp hreply⟩
    · exact absurd hreply List.not_mem_nil
  · rw [replies_of_not_ping hping] at hreply
    exact absurd hreply List.not_mem_nil

theorem ReplyOf.later {history : List (PingEvent ι)} {packet : Packet AccessMessageTx} {x y : ι}
    (h : ReplyOf addr history packet x y) (event : PingEvent ι) :
    ReplyOf addr (event :: history) packet x y where
  message := h.message
  distinct := h.distinct
  pinged := by
    obtain ⟨ttl, target, hacted, htarget, effects, hhandled⟩ := h.pinged
    exact ⟨ttl, target, List.mem_cons_of_mem event hacted, htarget, effects,
      List.mem_cons_of_mem event hhandled⟩

theorem Traced.later {history : List (PingEvent ι)} {packet : Packet AccessMessageTx}
    (h : Traced addr history packet) (event : PingEvent ι) :
    Traced addr (event :: history) packet := by
  constructor
  · intro hping
    obtain ⟨x, ttl, target, hacted, hmessage⟩ := h.1 hping
    exact ⟨x, ttl, target, List.mem_cons_of_mem event hacted, hmessage⟩
  · intro hreply
    obtain ⟨x, y, hreplyOf⟩ := h.2 hreply
    exact ⟨x, y, hreplyOf.later addr event⟩

/-- Everything in flight or handled is traced to the call it goes back to. -/
theorem reachable_traced {s : Network ι AccessMessageTx MeshAction (List Effect)}
    (h : Reachable (firmware addr) s) :
    (∀ packet ∈ s.inFlight, Traced addr s.history packet) ∧
      History (firmware addr) (Traced addr) s.history := by
  apply h.traced (Traced addr)
  · exact fun event history packet htraced => htraced.later addr event
  · intro history node what message hmessage
    cases what with
    | ping ttl target =>
        have hping : message = ⟨.ping, txPayload target (addr node)⟩ := by
          simpa [firmware, pingNeighbors, published] using hmessage
        subst hping
        exact ⟨fun _ => ⟨node, ttl, target, List.mem_cons_self, rfl⟩,
          fun hreply => (by cases hreply)⟩
    | chat buf =>
        obtain ⟨length, _, rfl⟩ : ∃ length, strlen buf = some length ∧
            ⟨.message, (bytes buf).take (length + 1)⟩ = message := by
          simpa [firmware, btMeshChatCliMessageSend] using hmessage
        exact ⟨fun hping => (by cases hping), fun hreply => (by cases hreply)⟩
  · intro history y packet effects reply htraced hhandle hreply
    obtain ⟨x, ttl, target, hacted, hmessage, hdistinct, htarget, rfl⟩ :=
      handle_replies addr htraced hhandle hreply
    refine ⟨fun hping => (by cases hping), fun _ => ⟨x, y, rfl, Ne.symm hdistinct, ttl, target,
      List.mem_cons_of_mem _ hacted, htarget, effects, ?_⟩⟩
    rw [← hmessage]
    exact List.mem_cons_self

/-- What holds of the ping protocol in a state of the network. -/
structure PingSound (s : Network ι AccessMessageTx MeshAction (List Effect)) : Prop where
  inFlight : ∀ packet ∈ s.inFlight, packet.message.opcode = .pingReply →
    ∃ x y, x ≠ y ∧ ReplyOf addr s.history packet x y
  accepted : ∀ newer x packet effects older,
    s.history = newer ++ .handled x packet effects :: older →
    packet.message.opcode = .pingReply →
    ∀ target source, Effect.log (.pingFrom target source) ∈ effects →
      ∃ y, x ≠ y ∧ target = addr x ∧ source = addr y ∧ ReplyOf addr older packet x y
  directed : ∀ y packet effects target source, .handled y packet effects ∈ s.history →
    packet.message = ⟨.ping, txPayload target source⟩ → target ≠ 0xFFFF →
    replies effects ≠ [] → addr y = target
  replyCount : repliesIssued (firmware addr) s.history ≤
    deliveries (fun message => message.opcode = .ping) s.history
  replyQuiet : ∀ packet ∈ s.inFlight, packet.message.opcode = .pingReply →
    ∀ node effects, (firmware addr).handle node packet.message effects →
      (s.deliver (firmware addr) node packet effects).inFlight = s.inFlight
  onePing : ∀ action x x' what what', .acted action x what ∈ s.history →
    .acted action x' what' ∈ s.history → x = x' ∧ what = what'

theorem handled_accepted {history : List (PingEvent ι)} {packet : Packet AccessMessageTx} {x : ι}
    {effects : List Effect} (hinjective : Function.Injective addr)
    (htraced : Traced addr history packet)
    (hhandle : (firmware addr).handle x packet.message effects)
    (hopcode : packet.message.opcode = .pingReply) {target source : Word16}
    (hlog : Effect.log (.pingFrom target source) ∈ effects) :
    ∃ y, x ≠ y ∧ target = addr x ∧ source = addr y ∧ ReplyOf addr history packet x y := by
  obtain ⟨stack, m, hdelivers, rfl⟩ := hhandle
  obtain ⟨x', y, hreply⟩ := htraced.2 hopcode
  rw [hreply.message] at hdelivers hlog
  rw [opcodeHandler, handlePingReply_effects hdelivers] at hlog
  split at hlog
  · next haddressed =>
      have hx : x' = x := hinjective haddressed
      subst hx
      cases List.mem_singleton.mp hlog
      exact ⟨y, fun hxy => hreply.distinct (congrArg addr hxy).symm, rfl, rfl, hreply⟩
  · exact absurd hlog List.not_mem_nil

theorem handled_directed {packet : Packet AccessMessageTx} {y : ι} {effects : List Effect}
    (hhandle : (firmware addr).handle y packet.message effects) {target source : Word16}
    (hmessage : packet.message = ⟨.ping, txPayload target source⟩) (hsingle : target ≠ 0xFFFF)
    (hreplies : replies effects ≠ []) : addr y = target := by
  obtain ⟨stack, m, hdelivers, rfl⟩ := hhandle
  rw [hmessage] at hdelivers hreplies
  rw [opcodeHandler, handlePing_replies hdelivers] at hreplies
  split at hreplies
  · next hanswer =>
      rcases hanswer.2 with hall | hme
      · exact absurd hall hsingle
      · exact hme.symm
  · exact absurd rfl hreplies

/-- The ping protocol is sound in every reachable state. -/
theorem pingNetwork_sound (hinjective : Function.Injective addr)
    {s : Network ι AccessMessageTx MeshAction (List Effect)} (h : Reachable (firmware addr) s) :
    PingSound addr s := by
  obtain ⟨hflight, hhistory⟩ := reachable_traced addr h
  refine ⟨?_, ?_, ?_, ?_, ?_, ?_⟩
  · intro packet hmem hopcode
    obtain ⟨x, y, hreply⟩ := (hflight packet hmem).2 hopcode
    exact ⟨x, y, fun hxy => hreply.distinct (congrArg addr hxy).symm, hreply⟩
  · intro newer x packet effects older hsplit hopcode target source hlog
    obtain ⟨htraced, hhandle⟩ := hhistory newer x packet effects older hsplit
    exact handled_accepted addr hinjective htraced hhandle hopcode hlog
  · intro y packet effects target source hmem hmessage hsingle hreplies
    obtain ⟨newer, older, hsplit⟩ := List.append_of_mem hmem
    have hhandle := (hhistory newer y packet effects older hsplit).2
    exact handled_directed addr hhandle hmessage hsingle hreplies
  · apply h.repliesIssued_le
    rintro node message effects ⟨stack, m, _, rfl⟩
    have hone := replies_length_le stack (addr node) m message.opcode
    simpa [firmware] using hone
  · rintro packet _ hopcode node effects ⟨stack, m, _, rfl⟩
    have hquiet : replies (opcodeHandler stack (addr node) m packet.message.opcode).effects = [] :=
      replies_of_not_ping (by rw [hopcode]; decide)
    simp [Network.deliver, firmware, hquiet, tagged]
  · intro action x x' what what' hmem hmem'
    exact h.action_unique hmem hmem'

/-- Two nodes, with addresses 1 and 2. -/
def twoNodes (second : Bool) : Word16 := if second then 2 else 1

/-- The first has pinged everybody. -/
def pinged : Network Bool AccessMessageTx MeshAction (List Effect) :=
  ⟨[⟨⟨.ping, txPayload 0xFFFF 1⟩, 0⟩], [.acted 0 false (.ping 2 0xFFFF)]⟩

/-- The delivery of that ping as the second sees it. -/
def pingAtSecond : HandlerRun :=
  opcodeHandler (fun _ => 0) (twoNodes true) ⟨pointer (txPayload 0xFFFF 1), 4⟩ .ping

/-- The second node has answered. -/
def answered : Network Bool AccessMessageTx MeshAction (List Effect) :=
  pinged.deliver (firmware twoNodes) true ⟨⟨.ping, txPayload 0xFFFF 1⟩, 0⟩ pingAtSecond.effects

/-- The delivery of the answer as the first sees it. -/
def replyAtFirst : HandlerRun :=
  opcodeHandler (fun _ => 0) (twoNodes false) ⟨pointer (txPayload 1 2), 4⟩ .pingReply

/-- The reply is in flight, and then the first node takes it as an answer to its own ping. -/
theorem pingNetwork_sound_answered :
    ⟨⟨.pingReply, txPayload 1 2⟩, 0⟩ ∈ answered.inFlight ∧ PingSound twoNodes answered ∧
      .log (.pingFrom 1 2) ∈ replyAtFirst.effects ∧
      PingSound twoNodes (answered.deliver (firmware twoNodes) false
        ⟨⟨.pingReply, txPayload 1 2⟩, 0⟩ replyAtFirst.effects) := by
  have hpinged : Reachable (firmware twoNodes) pinged :=
    Relation.ReflTransGen.single
      (NetworkStep.act Network.initial false (MeshAction.ping 2 0xFFFF))
  have hanswered : Reachable (firmware twoNodes) answered :=
    hpinged.tail (NetworkStep.deliver pinged true _ pingAtSecond.effects
      List.mem_cons_self ⟨fun _ => 0, _, ⟨rfl, fun _ _ => rfl⟩, rfl⟩)
  have hflight : ⟨⟨.pingReply, txPayload 1 2⟩, 0⟩ ∈ answered.inFlight :=
    List.mem_append_left _ (mem_tagged.mpr ⟨_, List.mem_cons_self, rfl⟩)
  have haccepted := hanswered.tail (NetworkStep.deliver answered false _ replyAtFirst.effects
    hflight ⟨fun _ => 0, _, ⟨rfl, fun _ _ => rfl⟩, rfl⟩)
  exact ⟨hflight, pingNetwork_sound twoNodes (by decide) hanswered, List.mem_cons_self,
    pingNetwork_sound twoNodes (by decide) haccepted⟩

end Breadcrumb.Mesh
