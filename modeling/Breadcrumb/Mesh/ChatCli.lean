import Breadcrumb.Machine.Buffer

/-!
The chat client of `chat_cli.c` and the senders of `model_handler.c`. A receive
handler is a run that records, in order, which payload bytes it loads, which
bytes of its local buffer it stores to and which of them a comparison, a log or
a reply then looks at, beside what it logs and sends.
-/

namespace Breadcrumb.Mesh

open Breadcrumb.Machine

inductive Opcode where
  | message
  | privateMessage
  | messageReply
  | ping
  | pingReply
  deriving DecidableEq

structure AccessMessageTx where
  opcode : Opcode
  payload : List Byte
  deriving DecidableEq

/-- What the access layer hands to a handler: `p_data` and `length`. -/
structure AccessMessageRx where
  pData : Nat → Byte
  length : Nat

/-- A payload as a handler sees it; behind it stands anything. -/
def Delivers (m : AccessMessageRx) (payload : List Byte) : Prop :=
  m.length = payload.length ∧ ∀ i, i < payload.length → m.pData i = pointer payload i

inductive PublishTtl where
  | hops (ttl : Int)
  | useDefault

/-- The calls of the access layer a sender makes. -/
inductive AccessCall where
  | publishTtlSet (ttl : PublishTtl)
  | publish (packet : AccessMessageTx)

inductive LogLine where
  | handler (name : Opcode)
  | text (strlen : Option Nat) (length : Nat) (text : Option (List Byte))
  | pingFrom (target source : Word16)
  | replyToPing
  deriving DecidableEq

inductive Access where
  | load (index : Nat)
  | store (index : Nat)
  | use (index : Nat)
  deriving DecidableEq

inductive Effect where
  | log (line : LogLine)
  | reply (packet : AccessMessageTx)
  deriving DecidableEq

structure HandlerRun where
  bufferSize : Nat
  accesses : List Access
  effects : List Effect

/-- `memcpy(buf, p_message->p_data, length)`. -/
def memcpyAccesses (length : Nat) : List Access :=
  (List.range length).flatMap fun i => [.load i, .store i]

/-- The bytes a string function looks at, up to the NUL or past the buffer. -/
def scanAccesses {n : Nat} (buf : Buffer n) : List Access :=
  (List.range (((strlen buf).getD n) + 1)).map .use

/-- `uint16_t rx_payload[2]` as the four bytes behind it. -/
def rxPayload (buf : Buffer 4) : Fin 2 → Word16
  | 0 => assemble 16 [buf 0, buf 1]
  | 1 => assemble 16 [buf 2, buf 3]

def rxPayloadUse : Fin 2 → List Access
  | 0 => [.use 0, .use 1]
  | 1 => [.use 2, .use 3]

def txPayload (first second : Word16) : List Byte := leBytes 2 first ++ leBytes 2 second

/-- `handle_message`, with whatever the stack held in `buf`. -/
def handleMessage (stack : Buffer 100) (m : AccessMessageRx) : HandlerRun :=
  let buf := overlay stack (m.length + 1) m.pData
  { bufferSize := 100
    accesses := memcpyAccesses (m.length + 1) ++ scanAccesses buf
    effects := [.log (.handler .message), .log (.text (strlen buf) m.length (cString buf))] }

def handlePing (stack : Buffer 4) (localAddr : Word16) (m : AccessMessageRx) : HandlerRun :=
  let buf := overlay stack m.length m.pData
  let logged := memcpyAccesses m.length ++ rxPayloadUse 0 ++ rxPayloadUse 1
  let line := Effect.log (.pingFrom (rxPayload buf 0) (rxPayload buf 1))
  if rxPayload buf 1 = localAddr then
    -- don't reply to own ping
    ⟨4, logged ++ rxPayloadUse 1, [line]⟩
  else if rxPayload buf 0 = 0xFFFF ∨ rxPayload buf 0 = localAddr then
    ⟨4, logged ++ rxPayloadUse 1 ++ rxPayloadUse 0 ++ rxPayloadUse 1,
      [line, .log .replyToPing, .reply ⟨.pingReply, txPayload (rxPayload buf 1) localAddr⟩]⟩
  else
    ⟨4, logged ++ rxPayloadUse 1 ++ rxPayloadUse 0, [line]⟩

def handlePingReply (stack : Buffer 4) (localAddr : Word16) (m : AccessMessageRx) : HandlerRun :=
  let buf := overlay stack m.length m.pData
  let compared := memcpyAccesses m.length ++ rxPayloadUse 0
  if rxPayload buf 0 = localAddr then
    ⟨4, compared ++ rxPayloadUse 0 ++ rxPayloadUse 1,
      [.log (.pingFrom (rxPayload buf 0) (rxPayload buf 1))]⟩
  else
    ⟨4, compared, []⟩

/-- The handlers that log their name and nothing else. -/
def handleDummy (name : Opcode) : HandlerRun := ⟨0, [], [.log (.handler name)]⟩

def handlePrivateMessage2 : HandlerRun := handleDummy .privateMessage

def handleMessageReply2 : HandlerRun := handleDummy .messageReply

/-- `m_opcode_handlers`; the stack is as large as the largest local buffer. -/
def opcodeHandler (stack : Buffer 100) (localAddr : Word16) (m : AccessMessageRx) :
    Opcode → HandlerRun
  | .message => handleMessage stack m
  | .privateMessage => handlePrivateMessage2
  | .messageReply => handleMessageReply2
  | .ping => handlePing (fun i => stack (i.castLE (by decide))) localAddr m
  | .pingReply => handlePingReply (fun i => stack (i.castLE (by decide))) localAddr m

/-- `bt_mesh_chat_cli_message_send`: text and NUL, if there is one. -/
def btMeshChatCliMessageSend {n : Nat} (msg : Buffer n) : Option AccessMessageTx :=
  (strlen msg).map fun length => ⟨.message, (bytes msg).take (length + 1)⟩

def pingNeighbors (localAddr : Word16) (ttl : Int) (addr : Word16) : List AccessCall :=
  [.publishTtlSet (.hops ttl), .publish ⟨.ping, txPayload addr localAddr⟩,
    .publishTtlSet .useDefault]

/-- The one field of `bt_mesh_chat_cli` the program writes: `uint8_t buf[100]`. -/
structure BtMeshChatCli where
  buf : Buffer 100

/-- `chat` has static storage. -/
def initialChat : BtMeshChatCli := ⟨fun _ => 0⟩

/-- `SEGGER_RTT_Read(0, chat.buf, 100)` when it returns `text`. -/
def readBuf (text : List Byte) (chat : BtMeshChatCli) : BtMeshChatCli :=
  { chat with buf := overlay chat.buf text.length (pointer text) }

def cmdMessage2 (chat : BtMeshChatCli) : Option AccessMessageTx :=
  btMeshChatCliMessageSend chat.buf

theorem store_mem_memcpyAccesses {i length : Nat} :
    Access.store i ∈ memcpyAccesses length ↔ i < length := by
  simp [memcpyAccesses]

theorem load_mem_memcpyAccesses {i length : Nat} :
    Access.load i ∈ memcpyAccesses length ↔ i < length := by
  simp [memcpyAccesses]

theorem use_not_mem_memcpyAccesses {i length : Nat} :
    Access.use i ∉ memcpyAccesses length := by
  simp [memcpyAccesses]

end Breadcrumb.Mesh
