import Breadcrumb.Machine.Run
import Breadcrumb.Mesh.ChatSession

/-!
The host's command stream. Keys and chat texts come down one channel; a key is
taken from it at every poll, and key `2` takes whatever else is there as its
text. What the stream means is then a matter of timing, apart from the streams
that `Framed` describes.
-/

namespace Breadcrumb.Host

open Breadcrumb.Machine Breadcrumb.Mesh

inductive ButtonEvent where
  | ping
  | message
  | range
  | nodeReset
  deriving DecidableEq

/-- The bytes the host has still to write, those in RTT down-channel 0, the chat
client, and what has been dispatched and published. -/
structure Console where
  unwritten : List Byte
  channel : List Byte
  chat : BtMeshChatCli
  events : List ButtonEvent
  published : List (Option AccessMessageTx)

def connect (stream : List Byte) : Console := ⟨stream, [], initialChat, [], []⟩

def dispatch (event : ButtonEvent) (c : Console) : Console :=
  { c with events := c.events ++ [event] }

/-- `readBuf(); cmd_message2();` -/
def sendText (c : Console) : Console :=
  let chat := readBuf (c.channel.take 100) c.chat
  { c with
    channel := c.channel.drop 100
    chat := chat
    published := c.published ++ [cmdMessage2 chat] }

/-- The four cases of `button_event_handler`. Case 4 is followed as far as the
dispatch. -/
def buttonEventHandler (buttonNumber : Nat) (c : Console) : Console :=
  match buttonNumber + 1 with
  | 1 => dispatch .ping c
  | 2 => sendText (dispatch .message c)
  | 3 => dispatch .range c
  | 4 => dispatch .nodeReset c
  | _ => c

def IsKey (key : Byte) : Prop := chr '1' ≤ key ∧ key ≤ chr '4'

instance (key : Byte) : Decidable (IsKey key) := inferInstanceAs (Decidable (_ ∧ _))

/-- Other keys print the usage text. -/
def appRttInputHandler (key : Byte) (c : Console) : Console :=
  if IsKey key then buttonEventHandler (key - chr '1').toNat c else c

inductive HostAction where
  | write (count : Nat)
  | tick

def hostStep (c : Console) : HostAction → Console
  | .write count =>
      { c with
        unwritten := c.unwritten.drop count
        channel := c.channel ++ c.unwritten.take count }
  | .tick =>
      match c.channel with
      | [] => c
      | key :: rest => appRttInputHandler key { c with channel := rest }

def runHost (c : Console) (schedule : List HostAction) : Console := schedule.foldl hostStep c

def Consumed (c : Console) : Prop := c.unwritten = [] ∧ c.channel = []

/-- The two schedules dispatch the same events and publish the same texts. -/
def Agree (stream : List Byte) (schedule schedule' : List HostAction) : Prop :=
  (runHost (connect stream) schedule).events = (runHost (connect stream) schedule').events ∧
    (runHost (connect stream) schedule).published = (runHost (connect stream) schedule').published

def ChunkingInvariant (stream : List Byte) : Prop :=
  ∀ schedule schedule', Consumed (runHost (connect stream) schedule) →
    Consumed (runHost (connect stream) schedule') → Agree stream schedule schedule'

/-- Every `2` stands at the end or in front of a NUL, and none of the 100 bytes a
read may take is a key. -/
def Framed (stream : List Byte) : Prop :=
  ∀ front rest, stream = front ++ chr '2' :: rest →
    rest = [] ∨ rest.head? = some 0 ∧ ∀ key ∈ rest.take 100, ¬ IsKey key

def keyEvent (key : Byte) : Option ButtonEvent :=
  if key = chr '1' then some .ping
  else if key = chr '2' then some .message
  else if key = chr '3' then some .range
  else if key = chr '4' then some .nodeReset
  else none

/-- The keys of a stream, every byte of it taken as a key. -/
def keyEvents (stream : List Byte) : List ButtonEvent := stream.filterMap keyEvent

/-- What is published when no `2` finds a text. -/
def emptyTexts (chat : BtMeshChatCli) (stream : List Byte) : List (Option AccessMessageTx) :=
  stream.filterMap fun key => if key = chr '2' then some (cmdMessage2 chat) else none

theorem isKey_iff {key : Byte} :
    IsKey key ↔ key = chr '1' ∨ key = chr '2' ∨ key = chr '3' ∨ key = chr '4' := by
  constructor
  · rintro ⟨hlow, hhigh⟩
    have hlow' : 49 ≤ key.toNat := BitVec.le_def.mp hlow
    have hhigh' : key.toNat ≤ 52 := BitVec.le_def.mp hhigh
    have hvalue : key.toNat = 49 ∨ key.toNat = 50 ∨ key.toNat = 51 ∨ key.toNat = 52 := by omega
    rcases hvalue with h | h | h | h
    · exact Or.inl (BitVec.eq_of_toNat_eq h)
    · exact Or.inr (Or.inl (BitVec.eq_of_toNat_eq h))
    · exact Or.inr (Or.inr (Or.inl (BitVec.eq_of_toNat_eq h)))
    · exact Or.inr (Or.inr (Or.inr (BitVec.eq_of_toNat_eq h)))
  · rintro (rfl | rfl | rfl | rfl)
    all_goals decide

theorem keyEvent_eq_none {key : Byte} : keyEvent key = none ↔ ¬ IsKey key := by
  rw [isKey_iff]
  constructor
  · rintro hnone (rfl | rfl | rfl | rfl)
    all_goals exact absurd hnone (by decide)
  · intro hkey
    simp only [not_or] at hkey
    obtain ⟨hping, hmessage, hrange, hreset⟩ := hkey
    rw [keyEvent, if_neg hping, if_neg hmessage, if_neg hrange, if_neg hreset]

theorem appRttInputHandler_message (c : Console) :
    appRttInputHandler (chr '2') c = sendText (dispatch .message c) := rfl

/-- The keys apart from `2` only dispatch. -/
theorem appRttInputHandler_other {key : Byte} (h : key ≠ chr '2') (c : Console) :
    appRttInputHandler key c = { c with events := c.events ++ (keyEvent key).toList } := by
  by_cases hkey : IsKey key
  · rcases isKey_iff.mp hkey with rfl | rfl | rfl | rfl
    · rfl
    · exact absurd rfl h
    · rfl
    · rfl
  · rw [appRttInputHandler, if_neg hkey, keyEvent_eq_none.mpr hkey, Option.toList_none,
      List.append_nil]

theorem keyEvents_cons (key : Byte) (rest : List Byte) :
    keyEvents (key :: rest) = (keyEvent key).toList ++ keyEvents rest :=
  filterMap_cons_toList keyEvent key rest

theorem keyEvents_append (front rest : List Byte) :
    keyEvents (front ++ rest) = keyEvents front ++ keyEvents rest := List.filterMap_append

theorem keyEvents_eq_nil {stream : List Byte} :
    keyEvents stream = [] ↔ ∀ key ∈ stream, ¬ IsKey key := by
  rw [keyEvents, List.filterMap_eq_nil_iff]
  simp only [keyEvent_eq_none]

theorem emptyTexts_message (chat : BtMeshChatCli) (rest : List Byte) :
    emptyTexts chat (chr '2' :: rest) = cmdMessage2 chat :: emptyTexts chat rest :=
  List.filterMap_cons_some (if_pos rfl)

theorem emptyTexts_other {key : Byte} (h : key ≠ chr '2') (chat : BtMeshChatCli)
    (rest : List Byte) : emptyTexts chat (key :: rest) = emptyTexts chat rest :=
  List.filterMap_cons_none (if_neg h)

theorem emptyTexts_append (chat : BtMeshChatCli) (front rest : List Byte) :
    emptyTexts chat (front ++ rest) = emptyTexts chat front ++ emptyTexts chat rest :=
  List.filterMap_append

/-- Without a key there is no `2`. -/
theorem emptyTexts_eq_nil {stream : List Byte} (h : ∀ key ∈ stream, ¬ IsKey key)
    (chat : BtMeshChatCli) : emptyTexts chat stream = [] := by
  rw [emptyTexts, List.filterMap_eq_nil_iff]
  intro key hmem
  apply if_neg
  rintro rfl
  exact h _ hmem (by decide)

theorem readBuf_nil (chat : BtMeshChatCli) : readBuf [] chat = chat := by
  unfold readBuf overlay
  simp

/-- A buffer that begins with NUL publishes the empty text, and no other does. -/
theorem cmdMessage2_empty_iff {chat : BtMeshChatCli} :
    cmdMessage2 chat = some ⟨.message, [0]⟩ ↔ chat.buf 0 = 0 := by
  rw [← List.nil_append [0], cmdMessage2_eq_some]
  constructor
  · intro hstring
    obtain ⟨_, hnul⟩ := cString_nul hstring
    exact hnul
  · intro hnul
    exact cString_eq_some (by decide) (fun _ hbyte => absurd hbyte List.not_mem_nil)
      (fun _ hi => absurd hi (Nat.not_lt_zero _)) hnul

theorem cmdMessage2_of_cleared {chat : BtMeshChatCli} (h : chat.buf 0 = 0) :
    cmdMessage2 chat = cmdMessage2 initialChat :=
  (cmdMessage2_empty_iff.mpr h).trans (cmdMessage2_empty_iff.mpr rfl).symm

theorem Framed.of_append (front : List Byte) {rest : List Byte} (h : Framed (front ++ rest)) :
    Framed rest := by
  intro front' rest' hsplit
  apply h (front ++ front') rest'
  rw [hsplit, List.append_assoc]

/-- The bytes not taken from the channel yet. -/
def pending (c : Console) : List Byte := c.channel ++ c.unwritten

/-- On a framed stream, what has been dispatched and published falls short of what
the stream holds by what is pending, and the text buffer stays empty. -/
structure Aligned (stream : List Byte) (c : Console) : Prop where
  framed : Framed (pending c)
  cleared : c.chat.buf 0 = 0
  events : c.events ++ keyEvents (pending c) = keyEvents stream
  published : c.published ++ emptyTexts initialChat (pending c) = emptyTexts initialChat stream

theorem connect_aligned {stream : List Byte} (h : Framed stream) :
    Aligned stream (connect stream) :=
  ⟨h, rfl, rfl, rfl⟩

theorem write_aligned {stream : List Byte} {c : Console} (h : Aligned stream c) (count : Nat) :
    Aligned stream (hostStep c (.write count)) := by
  have hpending : pending (hostStep c (.write count)) = pending c := by
    simp [pending, hostStep, List.append_assoc]
  exact ⟨hpending ▸ h.framed, h.cleared, hpending ▸ h.events, hpending ▸ h.published⟩

/-- A poll that takes a `2` also takes the next bytes of the channel, none of them
a key, and leaves NUL in front of the buffer. -/
theorem tick_message_aligned {stream : List Byte} {c : Console} {rest : List Byte}
    (h : Aligned stream c) (hchannel : c.channel = chr '2' :: rest) :
    Aligned stream (sendText (dispatch .message { c with channel := rest })) := by
  obtain ⟨hframed, hcleared, hevents, hpublished⟩ := h
  have hpending : pending c = chr '2' :: (rest ++ c.unwritten) := by
    rw [pending, hchannel, List.cons_append]
  have hpending' : pending (sendText (dispatch .message { c with channel := rest })) =
      rest.drop 100 ++ c.unwritten := rfl
  rw [hpending] at hframed hevents hpublished
  have hsplit : rest ++ c.unwritten = rest.take 100 ++ (rest.drop 100 ++ c.unwritten) := by
    rw [← List.append_assoc, List.take_append_drop]
  have htaken : ∀ key ∈ rest.take 100, ¬ IsKey key := by
    rcases hframed [] _ rfl with hlast | ⟨_, hkeys⟩
    · rw [(List.append_eq_nil_iff.mp hlast).1]
      simp
    · intro key hmem
      apply hkeys key
      rw [List.take_append]
      exact List.mem_append_left _ hmem
  have hnul : (readBuf (rest.take 100) c.chat).buf 0 = 0 := by
    rcases hframed [] _ rfl with hlast | ⟨hhead, _⟩
    · rw [(List.append_eq_nil_iff.mp hlast).1, List.take_nil, readBuf_nil]
      exact hcleared
    · cases rest with
      | nil =>
          rw [List.take_nil, readBuf_nil]
          exact hcleared
      | cons first rest => exact Option.some.inj hhead
  refine ⟨?_, hnul, ?_, ?_⟩
  · have hrest : Framed (rest ++ c.unwritten) := Framed.of_append [chr '2'] hframed
    rw [hsplit] at hrest
    rw [hpending']
    exact Framed.of_append _ hrest
  · rw [hpending']
    rw [keyEvents_cons, hsplit, keyEvents_append, keyEvents_eq_nil.mpr htaken] at hevents
    rw [← hevents]
    simp [sendText, dispatch, keyEvent]
    rfl
  · rw [hpending']
    rw [emptyTexts_message, hsplit, emptyTexts_append, emptyTexts_eq_nil htaken] at hpublished
    rw [← hpublished, ← cmdMessage2_of_cleared hnul]
    simp [sendText, dispatch]

theorem tick_other_aligned {stream : List Byte} {c : Console} {key : Byte} {rest : List Byte}
    (h : Aligned stream c) (hchannel : c.channel = key :: rest) (hkey : key ≠ chr '2') :
    Aligned stream (appRttInputHandler key { c with channel := rest }) := by
  obtain ⟨hframed, hcleared, hevents, hpublished⟩ := h
  have hpending : pending c = key :: (rest ++ c.unwritten) := by
    rw [pending, hchannel, List.cons_append]
  rw [hpending] at hframed hevents hpublished
  rw [appRttInputHandler_other hkey]
  refine ⟨Framed.of_append [key] hframed, hcleared, ?_, ?_⟩
  · rw [keyEvents_cons, ← List.append_assoc] at hevents
    exact hevents
  · rw [emptyTexts_other hkey] at hpublished
    exact hpublished

theorem hostStep_aligned {stream : List Byte} {c : Console} (h : Aligned stream c)
    (action : HostAction) : Aligned stream (hostStep c action) := by
  cases action with
  | write count => exact write_aligned h count
  | tick =>
      cases hchannel : c.channel with
      | nil =>
          simp only [hostStep, hchannel]
          exact h
      | cons key rest =>
          simp only [hostStep, hchannel]
          by_cases hkey : key = chr '2'
          · subst hkey
            rw [appRttInputHandler_message]
            exact tick_message_aligned h hchannel
          · exact tick_other_aligned h hchannel hkey

theorem runHost_aligned {stream : List Byte} {c : Console} (h : Aligned stream c)
    (schedule : List HostAction) : Aligned stream (runHost c schedule) := by
  induction schedule generalizing c with
  | nil => exact h
  | cons action schedule ih => exact ih (hostStep_aligned h action)

theorem Aligned.consumed {stream : List Byte} {c : Console} (h : Aligned stream c)
    (hconsumed : Consumed c) :
    c.events = keyEvents stream ∧ c.published = emptyTexts initialChat stream := by
  have hpending : pending c = [] := by
    rw [pending, hconsumed.1, hconsumed.2, List.append_nil]
  have hevents := h.events
  have hpublished := h.published
  rw [hpending] at hevents hpublished
  exact ⟨(List.append_nil _).symm.trans hevents, (List.append_nil _).symm.trans hpublished⟩

theorem chunkingInvariant_of_framed {stream : List Byte} (h : Framed stream) :
    ChunkingInvariant stream := by
  intro schedule schedule' hconsumed hconsumed'
  obtain ⟨hevents, hpublished⟩ := (runHost_aligned (connect_aligned h) schedule).consumed hconsumed
  obtain ⟨hevents', hpublished'⟩ :=
    (runHost_aligned (connect_aligned h) schedule').consumed hconsumed'
  exact ⟨hevents.trans hevents'.symm, hpublished.trans hpublished'.symm⟩

/-- Write a byte, poll, and so on: nothing is ever there for a read to take. -/
def bytewise (count : Nat) : List HostAction :=
  (List.replicate count [HostAction.write 1, HostAction.tick]).flatten

theorem runHost_append (c : Console) (schedule schedule' : List HostAction) :
    runHost c (schedule ++ schedule') = runHost (runHost c schedule) schedule' :=
  List.foldl_append

theorem runHost_bytewise_one {c : Console} {key : Byte} {rest : List Byte}
    (hchannel : c.channel = []) (hunwritten : c.unwritten = key :: rest) :
    runHost c [.write 1, .tick] =
      { c with
        unwritten := rest
        events := c.events ++ (keyEvent key).toList
        published := c.published ++ emptyTexts c.chat [key] } := by
  have hstep : runHost c [.write 1, .tick] =
      appRttInputHandler key { c with channel := [], unwritten := rest } := by
    simp [runHost, hostStep, hchannel, hunwritten]
  rw [hstep]
  by_cases hkey : key = chr '2'
  · subst hkey
    rw [appRttInputHandler_message, emptyTexts_message]
    simp [sendText, dispatch, readBuf_nil, hchannel, keyEvent, emptyTexts]
    decide
  · rw [appRttInputHandler_other hkey, emptyTexts_other hkey]
    simp [hchannel, emptyTexts]

theorem runHost_bytewise {c : Console} {stream rest : List Byte} (hchannel : c.channel = [])
    (hunwritten : c.unwritten = stream ++ rest) :
    runHost c (bytewise stream.length) =
      { c with
        unwritten := rest
        events := c.events ++ keyEvents stream
        published := c.published ++ emptyTexts c.chat stream } := by
  induction stream generalizing c with
  | nil =>
      rw [List.nil_append] at hunwritten
      simp [bytewise, runHost, keyEvents, emptyTexts, ← hunwritten]
  | cons key stream ih =>
      have hone := runHost_bytewise_one hchannel (hunwritten.trans (List.cons_append ..))
      have hsplit : bytewise (key :: stream).length =
          [.write 1, .tick] ++ bytewise stream.length := by
        rw [bytewise, List.length_cons, List.replicate_succ, List.flatten_cons]
        rfl
      rw [hsplit, runHost_append, hone]
      refine Eq.trans (ih ?_ ?_) ?_
      · exact hchannel
      · rfl
      · have htexts := emptyTexts_append c.chat [key] stream
        rw [List.singleton_append] at htexts
        rw [keyEvents_cons, htexts]
        simp only [List.append_assoc]

/-- Byte by byte up to a `2`, then as much as one read may take, then byte by byte
again. -/
def pausing (front rest : List Byte) : List HostAction :=
  bytewise front.length ++ [.write 101, .tick] ++ bytewise (rest.drop 100).length

theorem runHost_pausing (front rest : List Byte) :
    runHost (connect (front ++ chr '2' :: rest)) (pausing front rest) =
      ⟨[], [], readBuf (rest.take 100) initialChat,
        keyEvents front ++ .message :: keyEvents (rest.drop 100),
        emptyTexts initialChat front ++ cmdMessage2 (readBuf (rest.take 100) initialChat) ::
          emptyTexts (readBuf (rest.take 100) initialChat) (rest.drop 100)⟩ := by
  have hfront : runHost (connect (front ++ chr '2' :: rest)) (bytewise front.length) =
      ⟨chr '2' :: rest, [], initialChat, keyEvents front, emptyTexts initialChat front⟩ :=
    runHost_bytewise rfl rfl
  have hread : runHost ⟨chr '2' :: rest, [], initialChat, keyEvents front,
      emptyTexts initialChat front⟩ [.write 101, .tick] =
      ⟨rest.drop 100, [], readBuf (rest.take 100) initialChat, keyEvents front ++ [.message],
        emptyTexts initialChat front ++ [cmdMessage2 (readBuf (rest.take 100) initialChat)]⟩ := by
    simp [runHost, hostStep, appRttInputHandler_message, sendText, dispatch, List.take_take]
  rw [pausing, runHost_append, runHost_append, hfront, hread,
    runHost_bytewise rfl (List.append_nil _).symm]
  simp

/-- Where the two schedules agree, the `2` is framed. -/
theorem framed_of_chunkingInvariant {stream : List Byte} (h : ChunkingInvariant stream) :
    Framed stream := by
  rintro front rest rfl
  have hwhole : runHost (connect (front ++ chr '2' :: rest))
      (bytewise (front ++ chr '2' :: rest).length) =
      ⟨[], [], initialChat, keyEvents (front ++ chr '2' :: rest),
        emptyTexts initialChat (front ++ chr '2' :: rest)⟩ :=
    runHost_bytewise rfl (List.append_nil _).symm
  have hpausing := runHost_pausing front rest
  obtain ⟨hevents, hpublished⟩ := h _ _ (by rw [hwhole]; exact ⟨rfl, rfl⟩)
    (by rw [hpausing]; exact ⟨rfl, rfl⟩)
  rw [hwhole, hpausing] at hevents hpublished
  rw [keyEvents_append, keyEvents_cons] at hevents
  rw [emptyTexts_append, emptyTexts_message] at hpublished
  have hkeys := (List.cons.inj (List.append_cancel_left hevents)).2
  have htexts := (List.cons.inj (List.append_cancel_left hpublished)).1
  cases rest with
  | nil => exact Or.inl rfl
  | cons first rest =>
      refine Or.inr ⟨?_, ?_⟩
      · rw [cmdMessage2_empty_iff.mpr rfl] at htexts
        exact congrArg some (cmdMessage2_empty_iff.mp htexts.symm)
      · apply keyEvents_eq_nil.mp
        apply List.append_cancel_right
        rw [← keyEvents_append, List.take_append_drop, List.nil_append]
        exact hkeys

/-- The streams whose meaning does not depend on how they are chunked are the
framed ones; and the bytes in the channel when a `2` is polled, up to 100, are
taken as its text and not dispatched. -/
theorem commandStream_chunking_iff :
    (∀ stream, ChunkingInvariant stream ↔ Framed stream) ∧
    ∀ c rest, c.channel = chr '2' :: rest →
      (hostStep c .tick).channel = rest.drop 100 ∧
      (hostStep c .tick).chat = readBuf (rest.take 100) c.chat ∧
      (hostStep c .tick).events = c.events ++ [.message] ∧
      (hostStep c .tick).published =
        c.published ++ [cmdMessage2 (readBuf (rest.take 100) c.chat)] := by
  refine ⟨fun stream => ⟨framed_of_chunkingInvariant, chunkingInvariant_of_framed⟩, ?_⟩
  intro c rest hchannel
  simp only [hostStep, hchannel, appRttInputHandler_message]
  exact ⟨rfl, rfl, rfl, rfl⟩

/-- `24`: a reset if the host is slow, the text `4` if it is not. -/
theorem commandStream_resetOrText :
    ¬ ∀ stream, ChunkingInvariant stream := by
  intro hinvariant
  have hagree := hinvariant [chr '2', chr '4'] [.write 1, .tick, .write 1, .tick]
    [.write 2, .tick] ⟨by decide, by decide⟩ ⟨by decide, by decide⟩
  exact absurd hagree.1 (by decide)

/-- A ping and an empty message at the end do not depend on chunking. -/
theorem commandStream_chunking_iff_pingMessage : ChunkingInvariant [chr '1', chr '2'] := by
  apply (commandStream_chunking_iff.1 _).mpr
  intro front rest hsplit
  rcases front with _ | ⟨first, _ | ⟨second, front⟩⟩
  · exact absurd (List.cons.inj hsplit).1 (by decide)
  · exact Or.inl (List.cons.inj (List.cons.inj hsplit).2).2.symm
  · have hlength := congrArg List.length hsplit
    simp at hlength

end Breadcrumb.Host
