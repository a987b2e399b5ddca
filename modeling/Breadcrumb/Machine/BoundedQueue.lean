import Breadcrumb.Machine.Run

/-!
A bounded first-in first-out queue, given by what its users rely on: a put
appends, or refuses and leaves the queue alone when it is full, and a take
removes the oldest element. Over a run whose steps put or take at most one
element each, everything that was not refused has been taken or is still
there, in order.
-/

namespace Breadcrumb.Machine

structure BoundedQueue (capacity : Nat) (E S : Type*) where
  contents : S → List E
  empty : S
  put : E → S → Bool × S
  take : S → Option (E × S)
  contents_empty : contents empty = []
  put_room : ∀ e s, (contents s).length < capacity →
    (put e s).1 = true ∧ contents (put e s).2 = contents s ++ [e]
  put_full : ∀ e s, capacity ≤ (contents s).length →
    (put e s).1 = false ∧ contents (put e s).2 = contents s
  take_nil : ∀ s, contents s = [] → take s = none
  take_cons : ∀ s e rest, contents s = e :: rest →
    ∃ s', take s = some (e, s') ∧ contents s' = rest

/-- The queue as the list of its elements, oldest first. -/
def listQueue (capacity : Nat) (E : Type*) : BoundedQueue capacity E (List E) where
  contents l := l
  empty := []
  put e l := if l.length < capacity then (true, l ++ [e]) else (false, l)
  take
    | [] => none
    | e :: rest => some (e, rest)
  contents_empty := rfl
  put_room e l h := by simp [h]
  put_full e l h := by simp [Nat.not_lt.mpr h]
  take_nil l h := by rw [h]
  take_cons l e rest h := by
    rw [h]
    exact ⟨rest, rfl, rfl⟩

namespace BoundedQueue

variable {capacity : Nat} {E S σ ι ω : Type*} (q : BoundedQueue capacity E S)

/-- What one step does to the queue: nothing, a put of the offered element
whatever comes of it, or a take. -/
inductive Move : S → Option E → Option E → S → Prop where
  | idle (s : S) : Move s none none s
  | put (s : S) (e : E) : Move s (some e) none (q.put e s).2
  | take (s s' : S) (e : E) (h : q.take s = some (e, s')) : Move s none (some e) s'

theorem contents_of_take {s s' : S} {e : E} (h : q.take s = some (e, s')) :
    q.contents s = e :: q.contents s' := by
  cases hcontents : q.contents s with
  | nil =>
      rw [q.take_nil s hcontents] at h
      cases h
  | cons first rest =>
      obtain ⟨s'', htake, hrest⟩ := q.take_cons s first rest hcontents
      rw [h] at htake
      cases htake
      rw [hrest]

/-- The element a queue with these contents accepts. -/
def enqueued (s : S) (offered : Option E) : Option E :=
  if (q.contents s).length < capacity then offered else none

/-- One move: what was there and what was accepted is what was taken and what is
there. -/
theorem Move.account {s s' : S} {offered taken : Option E} (h : q.Move s offered taken s') :
    q.contents s ++ (q.enqueued s offered).toList = taken.toList ++ q.contents s' := by
  unfold enqueued
  cases h with
  | idle => simp
  | put e =>
      split
      · next hroom => exact (q.put_room e s hroom).2.symm
      · next hfull => simp [(q.put_full e s (Nat.le_of_not_lt hfull)).2]
  | take _ e htake => simp [q.contents_of_take htake]

/-- The elements of a run that were offered to a queue with room. -/
def accepted (queue : σ → S) (offered : Call σ ι ω → Option E) (cs : List (Call σ ι ω)) : List E :=
  cs.filterMap fun c => q.enqueued (queue c.before) (offered c)

/-- An offer to a full queue. -/
def Refused (queue : σ → S) (offered : Call σ ι ω → Option E) (c : Call σ ι ω) : Prop :=
  (offered c).isSome = true ∧ capacity ≤ (q.contents (queue c.before)).length

instance (queue : σ → S) (offered : Call σ ι ω → Option E) (c : Call σ ι ω) :
    Decidable (q.Refused queue offered c) := inferInstanceAs (Decidable (_ ∧ _))

variable {step : Step σ ι ω} {queue : σ → S} {offered taken : Call σ ι ω → Option E}

/-- First in, first out, over a run: the elements taken and those still there are
the elements accepted, in the order they came. -/
theorem run_account
    (hmove : ∀ s i o s', step s i = some (o, s') →
      q.Move (queue s) (offered ⟨s, i, o, s'⟩) (taken ⟨s, i, o, s'⟩) (queue s'))
    (s : σ) (is : List ι) :
    q.contents (queue s) ++ q.accepted queue offered (calls step s is) =
      (calls step s is).filterMap taken ++ q.contents (queue (endState step s is)) := by
  induction is generalizing s with
  | nil => simp [accepted]
  | cons i is ih =>
      cases hstep : step s i with
      | none => simp [accepted, calls_cons_none hstep, endState_cons_none hstep]
      | some result =>
          obtain ⟨o, s'⟩ := result
          have haccount := Move.account q (hmove s i o s' hstep)
          have hrest := ih s'
          unfold accepted at hrest ⊢
          rw [calls_cons_some hstep, endState_cons_some hstep, filterMap_cons_toList,
            filterMap_cons_toList, ← List.append_assoc, haccount, List.append_assoc, hrest,
            List.append_assoc]

theorem enqueued_length_add (queue : σ → S) (offered : Call σ ι ω → Option E) (c : Call σ ι ω) :
    (q.enqueued (queue c.before) (offered c)).toList.length +
        (if q.Refused queue offered c then 1 else 0) = (offered c).toList.length := by
  unfold enqueued Refused
  rcases Nat.lt_or_ge (q.contents (queue c.before)).length capacity with hroom | hfull
  · simp [hroom, Nat.not_le.mpr hroom]
  · rcases Option.eq_none_or_eq_some (offered c) with hoffer | ⟨e, hoffer⟩
    · simp [hoffer]
    · simp [hoffer, hfull, Nat.not_lt.mpr hfull]

/-- Offers are accepted or refused. -/
theorem accepted_length_add (queue : σ → S) (offered : Call σ ι ω → Option E)
    (cs : List (Call σ ι ω)) :
    (q.accepted queue offered cs).length + cs.countP (fun c => q.Refused queue offered c) =
      (cs.filterMap offered).length := by
  induction cs with
  | nil => rfl
  | cons c cs ih =>
      have hfirst := q.enqueued_length_add queue offered c
      unfold accepted at ih ⊢
      rw [filterMap_cons_toList, filterMap_cons_toList, List.countP_cons, List.length_append,
        List.length_append, ← ih, ← hfirst]
      simp only [decide_eq_true_eq]
      omega

/-- From the empty queue on, taken and queued elements make up for all that was
offered exactly if nothing was refused. -/
theorem conserved_iff (queue : σ → S) (offered taken : Call σ ι ω → Option E)
    (hmove : ∀ s i o s', step s i = some (o, s') →
      q.Move (queue s) (offered ⟨s, i, o, s'⟩) (taken ⟨s, i, o, s'⟩) (queue s'))
    {s : σ} (hempty : q.contents (queue s) = []) (is : List ι) :
    ((calls step s is).filterMap taken).length +
        (q.contents (queue (endState step s is))).length =
      ((calls step s is).filterMap offered).length ↔
    ∀ c ∈ calls step s is, ¬ q.Refused queue offered c := by
  have haccount := congrArg List.length (run_account q hmove s is)
  rw [hempty, List.nil_append, List.length_append] at haccount
  have hoffers := q.accepted_length_add queue offered (calls step s is)
  have hcount : (calls step s is).countP (fun c => q.Refused queue offered c) = 0 ↔
      ∀ c ∈ calls step s is, ¬ q.Refused queue offered c := by
    rw [List.countP_eq_zero]
    simp
  rw [← hcount]
  omega

end BoundedQueue

end Breadcrumb.Machine
