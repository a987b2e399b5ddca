import Mathlib

/-!
Runs of a partial step function. A step that answers `none` is a call that
has not returned, so a run records the calls that did return, each with the
state before it, its input, its output and the state after it. The rules
behind the definitions carry what one step hands on to every recorded call.
-/

namespace Breadcrumb.Machine

variable {σ ι ω : Type*}

abbrev Step (σ ι ω : Type*) := σ → ι → Option (ω × σ)

structure Call (σ ι ω : Type*) where
  before : σ
  input : ι
  output : ω
  after : σ

/-- The calls that return when the inputs are offered in order. Nothing runs
behind a call that does not return. -/
def calls (step : Step σ ι ω) : σ → List ι → List (Call σ ι ω)
  | _, [] => []
  | s, i :: is =>
      match step s i with
      | none => []
      | some (o, s') => ⟨s, i, o, s'⟩ :: calls step s' is

/-- The state behind the last call that returned. -/
def endState (step : Step σ ι ω) : σ → List ι → σ
  | s, [] => s
  | s, i :: is =>
      match step s i with
      | none => s
      | some (_, s') => endState step s' is

@[simp] theorem calls_nil (step : Step σ ι ω) (s : σ) : calls step s [] = [] := rfl

@[simp] theorem endState_nil (step : Step σ ι ω) (s : σ) :
    endState step s [] = s := rfl

theorem calls_cons_none {step : Step σ ι ω} {s : σ} {i : ι} {is : List ι}
    (h : step s i = none) : calls step s (i :: is) = [] := by
  simp only [calls, h]

theorem calls_cons_some {step : Step σ ι ω} {s s' : σ} {i : ι} {o : ω}
    {is : List ι} (h : step s i = some (o, s')) :
    calls step s (i :: is) = ⟨s, i, o, s'⟩ :: calls step s' is := by
  simp only [calls, h]

theorem endState_cons_none {step : Step σ ι ω} {s : σ} {i : ι} {is : List ι}
    (h : step s i = none) : endState step s (i :: is) = s := by
  simp only [endState, h]

theorem endState_cons_some {step : Step σ ι ω} {s s' : σ} {i : ι} {o : ω}
    {is : List ι} (h : step s i = some (o, s')) :
    endState step s (i :: is) = endState step s' is := by
  simp only [endState, h]

/-- Every call returns when no state refuses any of the inputs. -/
theorem calls_length_eq {step : Step σ ι ω} {s : σ} {is : List ι}
    (h : ∀ s, ∀ i ∈ is, (step s i).isSome = true) :
    (calls step s is).length = is.length := by
  induction is generalizing s with
  | nil => rfl
  | cons i is ih =>
      obtain ⟨⟨o, s'⟩, hstep⟩ := Option.isSome_iff_exists.mp (h s i List.mem_cons_self)
      rw [calls_cons_some hstep, List.length_cons, List.length_cons]
      rw [ih fun s j hj => h s j (List.mem_cons_of_mem i hj)]

/-- The indexed invariant rule: what holds of the state before call `k` and is
handed on by one step holds before and after every recorded call. -/
theorem calls_indexed {step : Step σ ι ω} (P : Nat → σ → Prop)
    (hstep : ∀ k s i o s', P k s → step s i = some (o, s') → P (k + 1) s')
    (first : Nat) {s : σ} (hstart : P first s) (is : List ι)
    {k : Nat} {c : Call σ ι ω} (hc : (calls step s is)[k]? = some c) :
    P (first + k) c.before ∧ P (first + k + 1) c.after ∧
      step c.before c.input = some (c.output, c.after) := by
  induction is generalizing first s k with
  | nil => simp at hc
  | cons i is ih =>
      cases h : step s i with
      | none => simp [calls_cons_none h] at hc
      | some result =>
          obtain ⟨o, s'⟩ := result
          have hnext : P (first + 1) s' := hstep first s i o s' hstart h
          rw [calls_cons_some h] at hc
          cases k with
          | zero =>
              have hcall : c = ⟨s, i, o, s'⟩ := by simpa using hc.symm
              subst hcall
              exact ⟨hstart, hnext, h⟩
          | succ k =>
              have hrest : (calls step s' is)[k]? = some c := by simpa using hc
              have := ih (first + 1) hnext hrest
              rwa [Nat.add_right_comm first 1 k] at this

theorem endState_indexed {step : Step σ ι ω} (P : Nat → σ → Prop)
    (hstep : ∀ k s i o s', P k s → step s i = some (o, s') → P (k + 1) s')
    (first : Nat) {s : σ} (hstart : P first s) (is : List ι) :
    P (first + (calls step s is).length) (endState step s is) := by
  induction is generalizing first s with
  | nil => simpa using hstart
  | cons i is ih =>
      cases h : step s i with
      | none => simpa [calls_cons_none h, endState_cons_none h] using hstart
      | some result =>
          obtain ⟨o, s'⟩ := result
          have hrest := ih (first + 1) (hstep first s i o s' hstart h)
          rw [calls_cons_some h, endState_cons_some h, List.length_cons]
          rwa [Nat.add_right_comm first 1] at hrest

/-- A property of calls that amounts to a condition on their inputs from every
state meeting `P`, and that hands `P` on: a run has it throughout exactly if its
inputs meet the condition throughout. -/
theorem calls_forall_iff {step : Step σ ι ω} (P : σ → Prop) (Q : Call σ ι ω → Prop)
    (good : ι → Prop)
    (hiff : ∀ s i o s', P s → step s i = some (o, s') → (Q ⟨s, i, o, s'⟩ ↔ good i))
    (hkeep : ∀ s i o s', P s → step s i = some (o, s') → Q ⟨s, i, o, s'⟩ → P s')
    {s : σ} (hstart : P s) (is : List ι) :
    (∀ c ∈ calls step s is, Q c) ↔ ∀ c ∈ calls step s is, good c.input := by
  induction is generalizing s with
  | nil => simp
  | cons i is ih =>
      cases h : step s i with
      | none => simp [calls_cons_none h]
      | some result =>
          obtain ⟨o, s'⟩ := result
          rw [calls_cons_some h, List.forall_mem_cons, List.forall_mem_cons,
            hiff s i o s' hstart h]
          apply and_congr_right
          intro hgood
          exact ih (hkeep s i o s' hstart h ((hiff s i o s' hstart h).mpr hgood))

/-- Observations that depend on the index of the call only, listed over a run. -/
theorem calls_map_eq_range {α : Type*} {step : Step σ ι ω} {s : σ} {is : List ι}
    (f : Call σ ι ω → α) (g : Nat → α)
    (h : ∀ k c, (calls step s is)[k]? = some c → f c = g k) :
    (calls step s is).map f = (List.range (calls step s is).length).map g := by
  apply List.ext_getElem
  · simp
  · intro k hk _
    have hcall : k < (calls step s is).length := by simpa using hk
    simpa using h k _ (List.getElem?_eq_getElem hcall)

/-- A value with a property, found by evaluation. -/
theorem exists_of_any {α : Type*} (P : α → Prop) [DecidablePred P] (found : Option α)
    (h : found.any (fun a => decide (P a)) = true) : ∃ a, found = some a ∧ P a := by
  obtain ⟨a, ha, hdecide⟩ := (Option.any_eq_true _ found).mp h
  exact ⟨a, ha, of_decide_eq_true hdecide⟩

/-- What holds of every entry of a list behind the entries in front of it, entry by
entry. -/
theorem forall_split_cons_iff {α : Type*} (P : List α → α → Prop) (x : α) (xs : List α) :
    (∀ front a rest, x :: xs = front ++ a :: rest → P front a) ↔
      P [] x ∧ ∀ front a rest, xs = front ++ a :: rest → P (x :: front) a := by
  constructor
  · intro h
    refine ⟨h [] x xs rfl, fun front a rest hsplit => ?_⟩
    exact h (x :: front) a rest (by rw [hsplit, List.cons_append])
  · rintro ⟨hhead, htail⟩ front a rest hsplit
    rcases List.cons_eq_append_iff.mp hsplit with ⟨rfl, hcons⟩ | ⟨front, rfl, hxs⟩
    · obtain ⟨rfl, -⟩ := List.cons.inj hcons
      exact hhead
    · exact htail front a rest hxs

theorem filterMap_cons_toList {α β : Type*} (f : α → Option β) (a : α) (l : List α) :
    (a :: l).filterMap f = (f a).toList ++ l.filterMap f := by
  cases h : f a with
  | none => rw [List.filterMap_cons_none h, Option.toList_none, List.nil_append]
  | some b => rw [List.filterMap_cons_some h, Option.toList_some, List.singleton_append]

/-- A counter that goes up by one at each call with an observation. -/
theorem endState_count {α : Type*} {step : Step σ ι ω} (f : σ → Nat) (g : Call σ ι ω → Option α)
    (hstep : ∀ s i o s', step s i = some (o, s') →
      f s' = f s + (g ⟨s, i, o, s'⟩).toList.length) (s : σ) (is : List ι) :
    f (endState step s is) = f s + ((calls step s is).filterMap g).length := by
  induction is generalizing s with
  | nil => rfl
  | cons i is ih =>
      cases h : step s i with
      | none => rw [endState_cons_none h, calls_cons_none h]; rfl
      | some result =>
          obtain ⟨o, s'⟩ := result
          rw [endState_cons_some h, calls_cons_some h, filterMap_cons_toList, List.length_append,
            ih s', hstep s i o s' h, Nat.add_assoc]

end Breadcrumb.Machine
