import Mathlib

/-!
Message passing without guarantees: a message in flight may be handled at any
node, any number of times, in any order, or be lost. The nodes run one
protocol; the network keeps a history of what they did, newest first, and tags
every message with the action it goes back to.
-/

namespace Breadcrumb.Machine

/-- What a node may do: send messages on its own account, and handle a message
with one of several results, each with its replies. -/
structure Protocol (ι M A R : Type*) where
  send : ι → A → List M
  handle : ι → M → R → Prop
  replies : R → List M

structure Packet (M : Type*) where
  message : M
  action : Nat

inductive Event (ι M A R : Type*) where
  | acted (action : Nat) (node : ι) (what : A)
  | handled (node : ι) (packet : Packet M) (result : R)

structure Network (ι M A R : Type*) where
  inFlight : List (Packet M)
  history : List (Event ι M A R)

variable {ι M A R : Type*}

def Network.initial : Network ι M A R := ⟨[], []⟩

/-- The packets sent under one action. -/
def tagged (action : Nat) (messages : List M) : List (Packet M) :=
  messages.map fun message => ⟨message, action⟩

/-- A delivery leaves the packet in flight, so it may be delivered again. -/
def Network.deliver (P : Protocol ι M A R) (s : Network ι M A R) (node : ι) (packet : Packet M)
    (result : R) : Network ι M A R where
  inFlight := tagged packet.action (P.replies result) ++ s.inFlight
  history := .handled node packet result :: s.history

inductive NetworkStep (P : Protocol ι M A R) : Network ι M A R → Network ι M A R → Prop where
  | act (s : Network ι M A R) (node : ι) (what : A) :
      NetworkStep P s ⟨tagged s.history.length (P.send node what) ++ s.inFlight,
        .acted s.history.length node what :: s.history⟩
  | deliver (s : Network ι M A R) (node : ι) (packet : Packet M) (result : R)
      (hflight : packet ∈ s.inFlight) (hhandle : P.handle node packet.message result) :
      NetworkStep P s (s.deliver P node packet result)
  | lose (s : Network ι M A R) (kept : List (Packet M)) (hkept : kept.Sublist s.inFlight) :
      NetworkStep P s ⟨kept, s.history⟩

def Reachable (P : Protocol ι M A R) (s : Network ι M A R) : Prop :=
  Relation.ReflTransGen (NetworkStep P) Network.initial s

theorem mem_tagged {action : Nat} {messages : List M} {packet : Packet M} :
    packet ∈ tagged action messages ↔ ∃ message ∈ messages, packet = ⟨message, action⟩ := by
  simp only [tagged, List.mem_map, eq_comm]

/-- The invariant rule for networks. -/
theorem Reachable.invariant {P : Protocol ι M A R} (Inv : Network ι M A R → Prop)
    (hinitial : Inv Network.initial) (hstep : ∀ s s', Inv s → NetworkStep P s s' → Inv s')
    {s : Network ι M A R} (h : Reachable P s) : Inv s := by
  induction h with
  | refl => exact hinitial
  | tail _ hlast ih => exact hstep _ _ ih hlast

/-- Every handled message was handled as the protocol says, and was of kind `T`
when it was. -/
def History (P : Protocol ι M A R) (T : List (Event ι M A R) → Packet M → Prop)
    (history : List (Event ι M A R)) : Prop :=
  ∀ newer node packet result older, history = newer ++ .handled node packet result :: older →
    T older packet ∧ P.handle node packet.message result

theorem history_nil (P : Protocol ι M A R) (T : List (Event ι M A R) → Packet M → Prop) :
    History P T [] := by
  intro newer node packet result older h
  simp at h

theorem History.acted {P : Protocol ι M A R} {T : List (Event ι M A R) → Packet M → Prop}
    {history : List (Event ι M A R)} (h : History P T history) (action : Nat) (node : ι)
    (what : A) : History P T (.acted action node what :: history) := by
  intro newer other packet result older hsplit
  cases newer with
  | nil => simp at hsplit
  | cons first newer => exact h newer other packet result older (List.cons.inj hsplit).2

theorem History.handled {P : Protocol ι M A R} {T : List (Event ι M A R) → Packet M → Prop}
    {history : List (Event ι M A R)} (h : History P T history) {node : ι} {packet : Packet M}
    {result : R} (htraced : T history packet) (hhandle : P.handle node packet.message result) :
    History P T (.handled node packet result :: history) := by
  intro newer other packet' result' older hsplit
  cases newer with
  | nil =>
      cases hsplit
      exact ⟨htraced, hhandle⟩
  | cons first newer => exact h newer other packet' result' older (List.cons.inj hsplit).2

/-- The provenance rule. A relation between histories and packets that survives
later events, that holds of what an action sends and that handlers hand on from
a message to its replies, holds of every packet in flight and of every packet
handled, when it was handled. -/
theorem Reachable.traced {P : Protocol ι M A R} (T : List (Event ι M A R) → Packet M → Prop)
    (hlater : ∀ event history packet, T history packet → T (event :: history) packet)
    (hsend : ∀ history node what message, message ∈ P.send node what →
      T (.acted history.length node what :: history) ⟨message, history.length⟩)
    (hreply : ∀ history node packet result message, T history packet →
      P.handle node packet.message result → message ∈ P.replies result →
        T (.handled node packet result :: history) ⟨message, packet.action⟩)
    {s : Network ι M A R} (h : Reachable P s) :
    (∀ packet ∈ s.inFlight, T s.history packet) ∧ History P T s.history := by
  refine h.invariant (fun s => (∀ packet ∈ s.inFlight, T s.history packet) ∧
    History P T s.history) ⟨fun _ hmem => absurd hmem List.not_mem_nil, history_nil P T⟩ ?_
  rintro s s' ⟨hflight, hhistory⟩ hstep
  cases hstep with
  | act node what =>
      refine ⟨?_, hhistory.acted _ node what⟩
      intro packet hmem
      rcases List.mem_append.mp hmem with hnew | hold
      · obtain ⟨message, hmessage, rfl⟩ := mem_tagged.mp hnew
        exact hsend s.history node what message hmessage
      · exact hlater _ _ packet (hflight packet hold)
  | deliver node packet result hin hhandle =>
      refine ⟨?_, hhistory.handled (hflight packet hin) hhandle⟩
      intro other hmem
      rcases List.mem_append.mp hmem with hnew | hold
      · obtain ⟨message, hmessage, rfl⟩ := mem_tagged.mp hnew
        exact hreply s.history node packet result message (hflight packet hin) hhandle hmessage
      · exact hlater _ _ other (hflight other hold)
  | lose kept hkept =>
      exact ⟨fun packet hmem => hflight packet (hkept.subset hmem), hhistory⟩

/-- The tag of an action is the number of events before it, so no two actions
share one. -/
theorem Reachable.action_eq {P : Protocol ι M A R} {s : Network ι M A R} (h : Reachable P s) :
    ∀ newer action node what older, s.history = newer ++ .acted action node what :: older →
      action = older.length := by
  refine h.invariant (fun s => ∀ newer action node what older,
    s.history = newer ++ .acted action node what :: older → action = older.length) ?_ ?_
  · intro newer action node what older hsplit
    simp [Network.initial] at hsplit
  · intro s s' ih hstep newer action node what older hsplit
    cases hstep with
    | act node' what' =>
        cases newer with
        | nil =>
            cases hsplit
            rfl
        | cons first newer => exact ih newer action node what older (List.cons.inj hsplit).2
    | deliver node' packet result _ _ =>
        cases newer with
        | nil => simp [Network.deliver] at hsplit
        | cons first newer => exact ih newer action node what older (List.cons.inj hsplit).2
    | lose kept _ => exact ih newer action node what older hsplit

theorem Reachable.action_unique {P : Protocol ι M A R} {s : Network ι M A R}
    (h : Reachable P s) {action : Nat} {node node' : ι} {what what' : A}
    (hmem : .acted action node what ∈ s.history) (hmem' : .acted action node' what' ∈ s.history) :
    node = node' ∧ what = what' := by
  obtain ⟨newer, older, hsplit⟩ := List.append_of_mem hmem
  obtain ⟨newer', older', hsplit'⟩ := List.append_of_mem hmem'
  have hlength : older.length = older'.length :=
    (h.action_eq newer action node what older hsplit).symm.trans
      (h.action_eq newer' action node' what' older' hsplit')
  have hsuffix := List.append_inj_right' (hsplit.symm.trans hsplit') (by simp [hlength])
  cases hsuffix
  exact ⟨rfl, rfl⟩

/-- The replies the history has seen. -/
def repliesIssued (P : Protocol ι M A R) : List (Event ι M A R) → Nat
  | [] => 0
  | .acted _ _ _ :: older => repliesIssued P older
  | .handled _ _ result :: older => (P.replies result).length + repliesIssued P older

/-- The deliveries of a kind of message the history has seen. -/
def deliveries (kind : M → Bool) : List (Event ι M A R) → Nat
  | [] => 0
  | .acted _ _ _ :: older => deliveries kind older
  | .handled _ packet _ :: older =>
      (if kind packet.message then 1 else 0) + deliveries kind older

/-- If handlers answer one kind of message only, and that at most once, there are
no more replies than deliveries of that kind. -/
theorem Reachable.repliesIssued_le {P : Protocol ι M A R} (kind : M → Bool)
    (hone : ∀ node message result, P.handle node message result →
      (P.replies result).length ≤ if kind message then 1 else 0)
    {s : Network ι M A R} (h : Reachable P s) :
    repliesIssued P s.history ≤ deliveries kind s.history := by
  refine h.invariant (fun s => repliesIssued P s.history ≤ deliveries kind s.history)
    (Nat.le_refl 0) ?_
  intro s s' ih hstep
  cases hstep with
  | act node what => exact ih
  | deliver node packet result _ hhandle =>
      exact Nat.add_le_add (hone node packet.message result hhandle) ih
  | lose kept _ => exact ih

end Breadcrumb.Machine
