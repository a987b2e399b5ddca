import Mathlib

/-!
Bounded first-in first-out maps and their layout in an array. `FifoMap` keeps
the entries of the most recently inserted keys, oldest first; putting a key
that is present replaces its entry in place. `RingLayout` says how an array of
the same size holds such a list: from slot zero while there is room, and from
the head round the end once it is full.
-/

namespace Breadcrumb.Machine

variable {E K : Type*} {N : Nat}

section Map

variable [DecidableEq K]

/-- The entries after putting `e`, oldest insertion first. -/
def putEntries (N : Nat) (key : E → K) (l : List E) (e : E) : List E :=
  if key e ∈ l.map key then l.map fun old => if key old = key e then e else old
  else (if l.length < N then l else l.tail) ++ [e]

structure FifoMap (N : Nat) (key : E → K) where
  entries : List E
  distinct : (entries.map key).Nodup
  bounded : entries.length ≤ N

/-- The last `n` elements of a list. -/
def lastN {α : Type*} (n : Nat) (l : List α) : List α := l.drop (l.length - n)

theorem map_key_replace (key : E → K) (l : List E) (e : E) :
    (l.map fun old => if key old = key e then e else old).map key = l.map key := by
  rw [List.map_map]
  apply List.map_congr_left
  intro old _
  by_cases h : key old = key e
  · simp [h]
  · simp [h]

/-- The keys of a full map lose their oldest, those of any other map nothing. -/
theorem putEntries_keys (key : E → K) (l : List E) (e : E) :
    (putEntries N key l e).map key =
      if key e ∈ l.map key then l.map key
      else (if l.length < N then l.map key else (l.map key).tail) ++ [key e] := by
  unfold putEntries
  split
  · exact map_key_replace key l e
  · split
    · rw [List.map_append, List.map_singleton]
    · rw [List.map_append, List.map_singleton, List.map_tail]

theorem putEntries_distinct {key : E → K} {l : List E} (h : (l.map key).Nodup) (e : E) :
    ((putEntries N key l e).map key).Nodup := by
  rw [putEntries_keys]
  split
  · exact h
  · next hnew =>
      rw [List.nodup_append_comm, List.singleton_append, List.nodup_cons]
      split
      · exact ⟨hnew, h⟩
      · exact ⟨fun hmem => hnew (List.mem_of_mem_tail hmem), h.tail⟩

theorem putEntries_bounded (hN : 0 < N) {key : E → K} {l : List E} (h : l.length ≤ N) (e : E) :
    (putEntries N key l e).length ≤ N := by
  unfold putEntries
  split
  · simpa using h
  · split
    · simp only [List.length_append, List.length_singleton]
      omega
    · simp only [List.length_append, List.length_singleton, List.length_tail]
      omega

namespace FifoMap

variable {key : E → K}

def empty : FifoMap N key := ⟨[], List.nodup_nil, Nat.zero_le N⟩

def put [NeZero N] (m : FifoMap N key) (e : E) : FifoMap N key where
  entries := putEntries N key m.entries e
  distinct := putEntries_distinct m.distinct e
  bounded := putEntries_bounded (NeZero.pos N) m.bounded e

def putAll [NeZero N] (es : List E) : FifoMap N key := es.foldl put empty

/-- The keys inserted by a sequence of puts, in order: a key is inserted when it
is put while it is not in the map. -/
def insertions [NeZero N] (m : FifoMap N key) : List E → List K
  | [] => []
  | e :: es =>
      (if key e ∈ m.entries.map key then [] else [key e]) ++ insertions (m.put e) es

end FifoMap

theorem lastN_append_lastN {α : Type*} (n : Nat) (l l' : List α) :
    lastN n (lastN n l ++ l') = lastN n (l ++ l') := by
  unfold lastN
  rw [List.drop_append, List.drop_drop, List.drop_append, List.length_append,
    List.length_append, List.length_drop]
  congr 2 <;> omega

theorem lastN_of_length_le {α : Type*} {n : Nat} {l : List α} (h : l.length ≤ n) :
    lastN n l = l := by
  rw [lastN, Nat.sub_eq_zero_of_le h, List.drop_zero]

namespace FifoMap

variable [NeZero N] {key : E → K}

theorem put_keys (m : FifoMap N key) (e : E) :
    (m.put e).entries.map key = lastN N (m.entries.map key ++
      if key e ∈ m.entries.map key then [] else [key e]) := by
  have hbounded : (m.entries.map key).length ≤ N := by simpa using m.bounded
  rw [put, putEntries_keys]
  split
  · rw [List.append_nil, lastN_of_length_le hbounded]
  · split
    · next hroom =>
        rw [lastN_of_length_le]
        simpa using hroom
    · next hfull =>
        have hlength : (m.entries.map key).length = N := by
          rw [List.length_map] at hbounded ⊢
          omega
        have hpos := NeZero.pos N
        rw [lastN, List.length_append, List.length_singleton, hlength, Nat.add_sub_cancel_left,
          List.drop_append_of_le_length (by omega), List.drop_one]

/-- A map holds the `N` most recently inserted keys, oldest first. -/
theorem foldl_put_keys (m : FifoMap N key) (es : List E) :
    (es.foldl put m).entries.map key = lastN N (m.entries.map key ++ m.insertions es) := by
  induction es generalizing m with
  | nil =>
      rw [insertions, List.append_nil, lastN_of_length_le (by simpa using m.bounded)]
      rfl
  | cons e es ih =>
      rw [List.foldl_cons, ih, put_keys, lastN_append_lastN, insertions, List.append_assoc]

theorem mem_put {m : FifoMap N key} {e old : E} (h : old ∈ (m.put e).entries) :
    old = e ∨ key old ≠ key e ∧ old ∈ m.entries := by
  unfold put putEntries at h
  split at h
  · obtain ⟨before, hbefore, rfl⟩ := List.mem_map.mp h
    by_cases hkey : key before = key e
    · exact Or.inl (if_pos hkey)
    · rw [if_neg hkey]
      exact Or.inr ⟨hkey, hbefore⟩
  · next hnew =>
      rcases List.mem_append.mp h with hold | hlast
      · have hmem : old ∈ m.entries := by
          split at hold
          · exact hold
          · exact List.mem_of_mem_tail hold
        exact Or.inr ⟨fun hkey => hnew (hkey ▸ List.mem_map_of_mem hmem), hmem⟩
      · exact Or.inl (List.mem_singleton.mp hlast)

/-- Every entry is the one put last for its key. -/
theorem putAll_latest (es : List E) {e : E} (h : e ∈ (putAll es : FifoMap N key).entries) :
    es.reverse.find? (fun other => key other = key e) = some e := by
  induction es using List.reverseRecOn generalizing e with
  | nil => cases h
  | append_singleton es last ih =>
      rw [putAll, List.foldl_append] at h
      rw [List.reverse_append, List.reverse_singleton, List.singleton_append]
      rcases mem_put h with rfl | ⟨hkey, hmem⟩
      · exact List.find?_cons_of_pos (by simp)
      · rw [List.find?_cons_of_neg (by simpa using Ne.symm hkey)]
        exact ih hmem

end FifoMap

end Map

section Ring

variable [NeZero N]

/-- The slot `j` places behind the head. -/
def ringIndex (head : Fin N) (j : Nat) : Fin N :=
  ⟨(head.val + j) % N, Nat.mod_lt _ (NeZero.pos N)⟩

/-- The array holds the list: from slot zero while it is not full, from the head
round the end once it is. -/
structure RingLayout (free : E → Prop) (slots : Fin N → E) (head : Fin N) (l : List E) :
    Prop where
  bounded : l.length ≤ N
  start : l.length < N → head.val = 0
  taken : ∀ j, ∀ hj : j < l.length, slots (ringIndex head j) = l[j]
  used : ∀ e ∈ l, ¬ free e
  rest : ∀ i : Fin N, l.length ≤ i.val → free (slots i)

theorem ringIndex_zero (head : Fin N) : ringIndex head 0 = head :=
  Fin.ext (Nat.mod_eq_of_lt head.isLt)

theorem ringIndex_of_start {head : Fin N} (h : head.val = 0) {j : Nat} (hj : j < N) :
    ringIndex head j = ⟨j, hj⟩ := by
  apply Fin.ext
  simp only [ringIndex, h, Nat.zero_add, Nat.mod_eq_of_lt hj]

theorem ringIndex_ringIndex (head : Fin N) (j k : Nat) :
    ringIndex (ringIndex head j) k = ringIndex head (j + k) := by
  apply Fin.ext
  simp only [ringIndex, Nat.mod_add_mod, Nat.add_assoc]

theorem ringIndex_size (head : Fin N) : ringIndex head N = head := by
  apply Fin.ext
  simp only [ringIndex, Nat.add_mod_right, Nat.mod_eq_of_lt head.isLt]

theorem ringIndex_injective {head : Fin N} {j k : Nat} (hj : j < N) (hk : k < N)
    (h : ringIndex head j = ringIndex head k) : j = k := by
  have hmod : j ≡ k [MOD N] := Nat.ModEq.add_left_cancel' head.val (congrArg Fin.val h)
  rwa [Nat.ModEq, Nat.mod_eq_of_lt hj, Nat.mod_eq_of_lt hk] at hmod

theorem exists_ringIndex (head i : Fin N) : ∃ j, j < N ∧ ringIndex head j = i := by
  refine ⟨(N - head.val + i.val) % N, Nat.mod_lt _ (NeZero.pos N), ?_⟩
  apply Fin.ext
  have hhead := head.isLt
  have hsum : head.val + (N - head.val + i.val) = N + i.val := by omega
  simp only [ringIndex, Nat.add_mod_mod, hsum, Nat.add_mod_left, Nat.mod_eq_of_lt i.isLt]

namespace RingLayout

variable {free : E → Prop} {slots : Fin N → E} {head : Fin N} {l : List E}

theorem index_of_lt (h : RingLayout free slots head l) {i : Fin N} (hi : i.val < l.length) :
    ∃ j, ∃ _ : j < l.length, ringIndex head j = i := by
  rcases Nat.lt_or_ge l.length N with hroom | hfull
  · exact ⟨i.val, hi, ringIndex_of_start (h.start hroom) i.isLt⟩
  · obtain ⟨j, hj, hindex⟩ := exists_ringIndex head i
    exact ⟨j, Nat.lt_of_lt_of_le hj hfull, hindex⟩

/-- The free slots are those behind the length of the list. -/
theorem free_iff (h : RingLayout free slots head l) (i : Fin N) :
    free (slots i) ↔ l.length ≤ i.val := by
  constructor
  · intro hfree
    by_contra hlt
    obtain ⟨j, hj, rfl⟩ := h.index_of_lt (Nat.lt_of_not_le hlt)
    rw [h.taken j hj] at hfree
    exact h.used _ (List.getElem_mem hj) hfree
  · exact h.rest i

theorem index_of_used (h : RingLayout free slots head l) {i : Fin N} (hi : ¬ free (slots i)) :
    ∃ j, ∃ _ : j < l.length, ringIndex head j = i :=
  h.index_of_lt (Nat.lt_of_not_le fun hle => hi (h.rest i hle))

theorem mem_iff (h : RingLayout free slots head l) {e : E} (he : ¬ free e) :
    (∃ i, slots i = e) ↔ e ∈ l := by
  constructor
  · rintro ⟨i, rfl⟩
    obtain ⟨j, hj, rfl⟩ := h.index_of_used he
    rw [h.taken j hj]
    exact List.getElem_mem hj
  · intro hmem
    obtain ⟨j, hj, rfl⟩ := List.getElem_of_mem hmem
    exact ⟨ringIndex head j, h.taken j hj⟩

theorem free_suffix (h : RingLayout free slots head l) {i i' : Fin N} (hle : i ≤ i')
    (hfree : free (slots i)) : free (slots i') :=
  (h.free_iff i').mpr (Nat.le_trans ((h.free_iff i).mp hfree) hle)

theorem oldest (h : RingLayout free slots head l) (hpos : 0 < l.length) :
    slots head = l[0] := by
  rw [← h.taken 0 hpos, ringIndex_zero]

/-- With distinct keys, no key stands in two slots. -/
theorem slot_unique (h : RingLayout free slots head l) {key : E → K}
    (hdistinct : (l.map key).Nodup) {i i' : Fin N} (hi : ¬ free (slots i))
    (hi' : ¬ free (slots i')) (hkey : key (slots i) = key (slots i')) : i = i' := by
  obtain ⟨j, hj, rfl⟩ := h.index_of_used hi
  obtain ⟨j', hj', rfl⟩ := h.index_of_used hi'
  rw [h.taken j hj, h.taken j' hj'] at hkey
  have hjj : j = j' := by
    have hlength : j < (l.map key).length := by simpa using hj
    apply (List.getElem?_inj hlength hdistinct).mp
    simp [hj, hj', hkey]
  rw [hjj]

theorem empty {slots : Fin N → E} {head : Fin N} (hhead : head.val = 0)
    (hfree : ∀ i, free (slots i)) : RingLayout free slots head [] where
  bounded := Nat.zero_le N
  start _ := hhead
  taken j hj := absurd hj (Nat.not_lt_zero j)
  used _ he := absurd he List.not_mem_nil
  rest i _ := hfree i

/-- Overwriting the slot of a key replaces its entry in the list. -/
theorem replace [DecidableEq K] (h : RingLayout free slots head l) {key : E → K}
    (hdistinct : (l.map key).Nodup) {i : Fin N} (hi : ¬ free (slots i)) {e : E}
    (he : ¬ free e) (hkey : key (slots i) = key e) :
    RingLayout free (Function.update slots i e) head
      (l.map fun old => if key old = key e then e else old) where
  bounded := by simpa using h.bounded
  start hroom := h.start (by simpa using hroom)
  taken j hj := by
    have hj' : j < l.length := by simpa using hj
    have hslot := h.taken j hj'
    rw [List.getElem_map, ← hslot]
    by_cases hindex : ringIndex head j = i
    · rw [hindex, Function.update_self, if_pos hkey]
    · rw [Function.update_of_ne hindex, if_neg]
      intro hsame
      refine hindex (h.slot_unique hdistinct ?_ hi (hsame.trans hkey.symm))
      rw [hslot]
      exact h.used _ (List.getElem_mem hj')
  used old hold := by
    obtain ⟨before, hbefore, rfl⟩ := List.mem_map.mp hold
    split
    · exact he
    · exact h.used before hbefore
  rest j hj := by
    have hfree := h.rest j (by simpa using hj)
    have hne : j ≠ i := fun heq => hi (heq ▸ hfree)
    rwa [Function.update_of_ne hne]

/-- While there is room, the first free slot takes the newest entry. -/
theorem push (h : RingLayout free slots head l) (hroom : l.length < N) {e : E}
    (he : ¬ free e) :
    RingLayout free (Function.update slots ⟨l.length, hroom⟩ e) head (l ++ [e]) where
  bounded := by simpa using hroom
  start _ := h.start hroom
  taken j hj := by
    have hj' : j < l.length + 1 := by simpa using hj
    have hindex := ringIndex_of_start (h.start hroom) (j := j) (by omega)
    rcases Nat.lt_succ_iff_lt_or_eq.mp hj' with hlt | rfl
    · have hne : (⟨j, by omega⟩ : Fin N) ≠ ⟨l.length, hroom⟩ := by
        simp only [ne_eq, Fin.mk.injEq]
        omega
      rw [hindex, Function.update_of_ne hne, List.getElem_append_left hlt, ← h.taken j hlt, hindex]
    · rw [hindex, Function.update_self]
      simp
  used old hold := by
    rcases List.mem_append.mp hold with hmem | hlast
    · exact h.used old hmem
    · rw [List.mem_singleton.mp hlast]
      exact he
  rest j hj := by
    rw [List.length_append, List.length_singleton] at hj
    have hne : j ≠ ⟨l.length, hroom⟩ := by
      intro heq
      have := congrArg Fin.val heq
      simp only at this
      omega
    rw [Function.update_of_ne hne]
    exact h.rest j (by omega)

/-- Once the array is full, the oldest entry gives its slot to the newest and
the head moves on. -/
theorem evict (h : RingLayout free slots head l) (hfull : l.length = N) {e : E}
    (he : ¬ free e) :
    RingLayout free (Function.update slots head e) (ringIndex head 1) (l.tail ++ [e]) where
  bounded := by
    have hpos := NeZero.pos N
    simp only [List.length_append, List.length_tail, List.length_singleton]
    omega
  start hroom := by
    have hpos := NeZero.pos N
    simp only [List.length_append, List.length_tail, List.length_singleton] at hroom
    omega
  taken j hj := by
    have hpos := NeZero.pos N
    have hj' : j < l.tail.length + 1 := by simpa using hj
    have htail : l.tail.length + 1 = N := by
      rw [List.length_tail]
      omega
    rw [ringIndex_ringIndex]
    rcases Nat.lt_succ_iff_lt_or_eq.mp hj' with hlt | rfl
    · have hnext : 1 + j < l.length := by omega
      have hne : ringIndex head (1 + j) ≠ head := by
        intro heq
        have := ringIndex_injective (by omega) hpos (heq.trans (ringIndex_zero head).symm)
        omega
      rw [Function.update_of_ne hne, h.taken _ hnext, List.getElem_append_left hlt,
        List.getElem_tail]
      congr 1
      omega
    · rw [Nat.add_comm, htail, ringIndex_size, Function.update_self]
      simp
  used old hold := by
    rcases List.mem_append.mp hold with hmem | hlast
    · exact h.used old (List.mem_of_mem_tail hmem)
    · rw [List.mem_singleton.mp hlast]
      exact he
  rest j hj := by
    have hpos := NeZero.pos N
    have hlt := j.isLt
    simp only [List.length_append, List.length_tail, List.length_singleton] at hj
    omega

end RingLayout

end Ring

end Breadcrumb.Machine
