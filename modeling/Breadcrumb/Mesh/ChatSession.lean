import Breadcrumb.Mesh.ChatCli

/-!
Chat texts over a whole session. `chat.buf` is neither cleared nor terminated
between two messages, so what is published depends on the longest text so far.
-/

namespace Breadcrumb.Mesh

open Breadcrumb.Machine

/-- What one `SEGGER_RTT_Read` returns: at most a buffer full, and no NUL. -/
structure HostText where
  text : List Byte
  short : text.length ≤ 100
  nulFree : NulFree text

/-- Key `2`, once for each text: `readBuf` and `cmd_message2`. -/
def messages : BtMeshChatCli → List HostText → List (Option AccessMessageTx)
  | _, [] => []
  | chat, next :: later =>
      cmdMessage2 (readBuf next.text chat) :: messages (readBuf next.text chat) later

def sessionChat (texts : List HostText) : BtMeshChatCli :=
  texts.foldl (fun chat next => readBuf next.text chat) initialChat

/-- The handler stays inside its buffer and logs the text. -/
def Shows (run : HandlerRun) (text : List Byte) : Prop :=
  (∀ i, Access.store i ∈ run.accesses → i < run.bufferSize) ∧
    ∃ strlen length, Effect.log (.text strlen length (some text)) ∈ run.effects

/-- The text is published with its NUL, and a peer shows it. -/
structure Faithful (next : HostText) (packet : Option AccessMessageTx) : Prop where
  payload : packet = some ⟨.message, next.text ++ [0]⟩
  shown : ∀ stack m, Delivers m (next.text ++ [0]) → Shows (handleMessage stack m) next.text

/-- The bytes of the buffer that are still zero are those no text has reached. -/
def Filled (earlier : List HostText) (chat : BtMeshChatCli) : Prop :=
  ∀ k : Fin 100, chat.buf k = 0 ↔ ∀ old ∈ earlier, old.text.length ≤ k.val

theorem initialChat_filled : Filled [] initialChat := by
  intro k
  simp [initialChat]

theorem readBuf_buf (text : List Byte) (chat : BtMeshChatCli) :
    (readBuf text chat).buf = overlay chat.buf text.length (pointer text) := rfl

theorem readBuf_filled {earlier : List HostText} {chat : BtMeshChatCli}
    (h : Filled earlier chat) (next : HostText) :
    Filled (earlier ++ [next]) (readBuf next.text chat) := by
  intro k
  rw [List.forall_mem_append, List.forall_mem_singleton]
  rcases Nat.lt_or_ge k.val next.text.length with hlt | hge
  · have hbyte : (readBuf next.text chat).buf k ≠ 0 := by
      rw [readBuf_buf, overlay_of_lt hlt, pointer_of_lt hlt]
      exact next.nulFree _ (List.getElem_mem hlt)
    exact iff_of_false hbyte fun hall => Nat.not_le.mpr hlt hall.2
  · rw [readBuf_buf, overlay_of_le hge, h k]
    simp [hge]

theorem take_of_strlen {n : Nat} {buf : Buffer n} {length : Nat} (h : strlen buf = some length) :
    (bytes buf).take (length + 1) = (bytes buf).take length ++ [0] := by
  obtain ⟨hlt, hnul, _⟩ := strlen_eq_some.mp h
  have hlength : length < (bytes buf).length := by simpa using hlt
  rw [List.take_succ_eq_append_getElem hlength]
  simp [bytes, hnul]

/-- With room for the NUL behind it, the text is what the buffer then holds. -/
theorem cString_readBuf {chat : BtMeshChatCli} {next : HostText}
    (hlt : next.text.length < 100) (hnul : (readBuf next.text chat).buf ⟨_, hlt⟩ = 0) :
    cString (readBuf next.text chat).buf = some next.text :=
  cString_eq_some hlt next.nulFree (fun _ hi => overlay_of_lt hi) hnul

/-- What is published is the string in the buffer, with its NUL. -/
theorem cmdMessage2_eq_some {chat : BtMeshChatCli} {text : List Byte} :
    cmdMessage2 chat = some ⟨.message, text ++ [0]⟩ ↔ cString chat.buf = some text := by
  rw [cmdMessage2, btMeshChatCliMessageSend, cString]
  cases hstrlen : strlen chat.buf with
  | none => simp
  | some length =>
      rw [Option.map_some, Option.map_some, take_of_strlen hstrlen]
      simp

theorem cmdMessage2_readBuf_iff {chat : BtMeshChatCli} {next : HostText} :
    cmdMessage2 (readBuf next.text chat) = some ⟨.message, next.text ++ [0]⟩ ↔
      ∃ hlt : next.text.length < 100, (readBuf next.text chat).buf ⟨_, hlt⟩ = 0 := by
  rw [cmdMessage2_eq_some]
  constructor
  · exact cString_nul
  · rintro ⟨hlt, hnul⟩
    exact cString_readBuf hlt hnul

/-- The handler copies one byte more than it was sent, so a text has to leave two
bytes of the peer's buffer free. -/
theorem handleMessage_shows_iff (next : HostText) :
    (∀ stack m, Delivers m (next.text ++ [0]) → Shows (handleMessage stack m) next.text) ↔
      next.text.length ≤ 98 := by
  constructor
  · intro hshows
    have hstores := (hshows (fun _ => 0)
      ⟨pointer (next.text ++ [0]), (next.text ++ [0]).length⟩ ⟨rfl, fun _ _ => rfl⟩).1
    have hlast := hstores (next.text.length + 1) (List.mem_append_left _
      (store_mem_memcpyAccesses.mpr (by simp)))
    have hsize : next.text.length + 1 < 100 := hlast
    omega
  · rintro hshort stack m ⟨hlength, hbytes⟩
    rw [List.length_append, List.length_singleton] at hlength hbytes
    constructor
    · intro i hi
      rcases List.mem_append.mp hi with hcopy | hscan
      · have hfits : m.length + 1 ≤ 100 := by omega
        exact Nat.lt_of_lt_of_le (store_mem_memcpyAccesses.mp hcopy) hfits
      · simp [scanAccesses] at hscan
    · have hcopy (i : Nat) (hi : i < 100) (hle : i ≤ next.text.length) :
          overlay stack (m.length + 1) m.pData ⟨i, hi⟩ = pointer (next.text ++ [0]) i := by
        have hin : i < m.length + 1 := by omega
        rw [overlay_of_lt hin]
        exact hbytes i (by omega)
      have hstring : cString (overlay stack (m.length + 1) m.pData) = some next.text := by
        refine cString_eq_some (by omega) next.nulFree ?_ ?_
        · intro i hi
          rw [hcopy i.val i.isLt (Nat.le_of_lt hi)]
          exact pointer_append_of_lt hi
        · rw [hcopy _ (by omega) (Nat.le_refl _)]
          simp [pointer]
      refine ⟨strlen (overlay stack (m.length + 1) m.pData), m.length, ?_⟩
      rw [← hstring]
      exact List.mem_cons_of_mem _ List.mem_cons_self

/-- One message of a session: it arrives as typed exactly if no earlier text was
longer and both ends have room for its NUL. -/
theorem faithful_iff {earlier : List HostText} {chat : BtMeshChatCli} (h : Filled earlier chat)
    (next : HostText) :
    Faithful next (cmdMessage2 (readBuf next.text chat)) ↔
      (∀ old ∈ earlier, old.text.length ≤ next.text.length) ∧ next.text.length ≤ 98 := by
  have hsplit : Faithful next (cmdMessage2 (readBuf next.text chat)) ↔
      (∃ hlt : next.text.length < 100, (readBuf next.text chat).buf ⟨_, hlt⟩ = 0) ∧
        next.text.length ≤ 98 := by
    rw [← cmdMessage2_readBuf_iff, ← handleMessage_shows_iff]
    exact ⟨fun hf => ⟨hf.payload, hf.shown⟩, fun hf => ⟨hf.1, hf.2⟩⟩
  rw [hsplit]
  apply and_congr_left
  intro hshort
  have hlt : next.text.length < 100 := by omega
  have hzero := readBuf_filled h next ⟨_, hlt⟩
  rw [List.forall_mem_append, List.forall_mem_singleton] at hzero
  constructor
  · rintro ⟨_, hnul⟩
    exact (hzero.mp hnul).1
  · intro hlongest
    exact ⟨hlt, hzero.mpr ⟨hlongest, Nat.le_refl _⟩⟩

theorem messages_faithful_iff {earlier : List HostText} {chat : BtMeshChatCli}
    (h : Filled earlier chat) (texts : List HostText) :
    List.Forall₂ Faithful texts (messages chat texts) ↔
      (∀ old ∈ earlier, ∀ next ∈ texts, old.text.length ≤ next.text.length) ∧
        texts.Pairwise (fun old next => old.text.length ≤ next.text.length) ∧
        ∀ next ∈ texts, next.text.length ≤ 98 := by
  induction texts generalizing earlier chat with
  | nil => simp [messages]
  | cons next later ih =>
      rw [messages, List.forall₂_cons, faithful_iff h, ih (readBuf_filled h next),
        List.pairwise_cons]
      simp only [List.forall_mem_append, List.forall_mem_singleton, List.forall_mem_cons]
      constructor
      · rintro ⟨⟨hfirst, hshort⟩, ⟨hearlier, hnext⟩, hpairwise, hrest⟩
        exact ⟨fun old hold => ⟨hfirst old hold, hearlier old hold⟩, ⟨hnext, hpairwise⟩,
          hshort, hrest⟩
      · rintro ⟨hearlier, ⟨hnext, hpairwise⟩, hshort, hrest⟩
        exact ⟨⟨fun old hold => (hearlier old hold).1, hshort⟩,
          ⟨fun old hold => (hearlier old hold).2, hnext⟩, hpairwise, hrest⟩

theorem messages_getElem? (chat : BtMeshChatCli) (earlier : List HostText) (next : HostText)
    (later : List HostText) :
    (messages chat (earlier ++ next :: later))[earlier.length]? = some (cmdMessage2
      (readBuf next.text (earlier.foldl (fun chat old => readBuf old.text chat) chat))) := by
  induction earlier generalizing chat with
  | nil => simp [messages]
  | cons old earlier ih =>
      rw [List.cons_append, messages, List.length_cons, List.getElem?_cons_succ, ih]
      rfl

theorem sessionChat_filled (earlier : List HostText) : Filled earlier (sessionChat earlier) := by
  induction earlier using List.reverseRecOn with
  | nil => exact initialChat_filled
  | append_singleton earlier next ih =>
      rw [sessionChat, List.foldl_append]
      exact readBuf_filled ih next

/-- Whole sessions: every message arrives as typed exactly if the texts do not get
shorter and none is longer than 98 bytes; and the same for each message of a
session on its own. -/
theorem chatSession_faithful_iff (texts : List HostText) :
    (List.Forall₂ Faithful texts (messages initialChat texts) ↔
      texts.Pairwise (fun old next => old.text.length ≤ next.text.length) ∧
        ∀ next ∈ texts, next.text.length ≤ 98) ∧
    ∀ earlier next later, texts = earlier ++ next :: later →
      ∃ packet, (messages initialChat texts)[earlier.length]? = some packet ∧
        (Faithful next packet ↔
          (∀ old ∈ earlier, old.text.length ≤ next.text.length) ∧ next.text.length ≤ 98) := by
  constructor
  · rw [messages_faithful_iff initialChat_filled]
    simp
  · rintro earlier next later rfl
    refine ⟨_, messages_getElem? initialChat earlier next later, ?_⟩
    exact faithful_iff (sessionChat_filled earlier) next

def hiText : HostText := ⟨[0x48, 0x69], by decide, by decide⟩

def noText : HostText := ⟨[0x6E], by decide, by decide⟩

/-- After `Hi`, the text `n` goes out as `ni`. -/
theorem chatSession_shorterText :
    ¬ ∀ texts, List.Forall₂ Faithful texts (messages initialChat texts) := by
  intro hfaithful
  have hboth := hfaithful [hiText, noText]
  rw [messages, messages, List.forall₂_cons, List.forall₂_cons] at hboth
  exact absurd hboth.2.1.payload (by decide +kernel)

theorem chatSession_faithful_iff_longerText :
    List.Forall₂ Faithful [noText, hiText] (messages initialChat [noText, hiText]) ∧
      ¬ List.Forall₂ Faithful [hiText, noText] (messages initialChat [hiText, noText]) := by
  rw [(chatSession_faithful_iff [noText, hiText]).1, (chatSession_faithful_iff [hiText, noText]).1]
  exact ⟨by decide, by decide⟩

end Breadcrumb.Mesh
