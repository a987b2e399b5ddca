import Breadcrumb.Machine.FifoMap
import Breadcrumb.Machine.Words

/-!
The presence cache of `model_handler.c` as a bounded first-in first-out map.
-/

namespace Breadcrumb.Mesh

open Breadcrumb.Machine

inductive Presence where
  | available
  | away
  | inactive
  | doNotDisturb
  deriving DecidableEq

@[ext] structure PresenceCacheEntry where
  addr : Word16
  presence : Presence
  deriving DecidableEq

/-- `presence_cache` and the static `presence_cache_head`, for a cache of
`CONFIG_BT_MESH_CHAT_SAMPLE_PRESENCE_CACHE_SIZE` entries. -/
structure PresenceCache (N : Nat) where
  entries : Fin N → PresenceCacheEntry
  presenceCacheHead : Fin N

variable {N : Nat} [NeZero N]

/-- Static storage is zero: no address, and the first presence value. -/
def emptyCache : PresenceCache N := ⟨fun _ => ⟨0, .available⟩, ⟨0, NeZero.pos N⟩⟩

/-- `for (i = 0; i < ARRAY_SIZE(presence_cache); i++) if (…) break;` -/
def findEntry (c : PresenceCache N) (p : PresenceCacheEntry → Bool) : Option (Fin N) :=
  Fin.find? fun i => p (c.entries i)

def storeEntry (c : PresenceCache N) (i : Fin N) (entry : PresenceCacheEntry) : PresenceCache N :=
  { c with entries := Function.update c.entries i entry }

def presenceCacheEntryCheckAndUpdate (entry : PresenceCacheEntry) (c : PresenceCache N) :
    Bool × PresenceCache N :=
  match findEntry c fun old => old.addr = entry.addr with
  | some i =>
      if (c.entries i).presence = entry.presence then (false, c)
      else (true, storeEntry c i entry)
  | none =>
      match findEntry c fun old => old.addr = 0 with
      | some i => (true, storeEntry c i entry)
      | none =>
          let i := c.presenceCacheHead
          (true, { storeEntry c i entry with
            presenceCacheHead := ⟨(i.val + 1) % N, Nat.mod_lt _ (NeZero.pos N)⟩ })

/-- The arguments of one call: an address in use. -/
abbrev PresenceUpdate := { entry : PresenceCacheEntry // entry.addr ≠ 0 }

def runUpdates (updates : List PresenceUpdate) : PresenceCache N :=
  updates.foldl (fun c update => (presenceCacheEntryCheckAndUpdate update.val c).2) emptyCache

/-- What the cache is for: the entries of the addresses seen last. -/
abbrev PresenceMap (N : Nat) := FifoMap N PresenceCacheEntry.addr

def abstractUpdates (updates : List PresenceUpdate) : PresenceMap N :=
  FifoMap.putAll (updates.map Subtype.val)

abbrev Layout (c : PresenceCache N) (m : PresenceMap N) : Prop :=
  RingLayout (fun entry => entry.addr = 0) c.entries c.presenceCacheHead m.entries

theorem emptyCache_layout : Layout (emptyCache : PresenceCache N) FifoMap.empty :=
  RingLayout.empty rfl fun _ => rfl

omit [NeZero N] in
theorem findEntry_eq_some {c : PresenceCache N} {p : PresenceCacheEntry → Bool} {i : Fin N}
    (h : findEntry c p = some i) :
    p (c.entries i) = true ∧ ∀ j, j < i → p (c.entries j) = false :=
  Fin.find?_eq_some_iff.mp h

omit [NeZero N] in
theorem findEntry_eq_none {c : PresenceCache N} {p : PresenceCacheEntry → Bool}
    (h : findEntry c p = none) : ∀ i, p (c.entries i) = false :=
  Fin.find?_eq_none_iff.mp h

theorem mem_addr_iff {c : PresenceCache N} {m : PresenceMap N} (h : Layout c m) {addr : Word16}
    (haddr : addr ≠ 0) :
    addr ∈ m.entries.map PresenceCacheEntry.addr ↔ ∃ i, (c.entries i).addr = addr := by
  constructor
  · intro hmem
    obtain ⟨old, hold, rfl⟩ := List.mem_map.mp hmem
    obtain ⟨i, hi⟩ := (h.mem_iff haddr).mpr hold
    exact ⟨i, congrArg PresenceCacheEntry.addr hi⟩
  · rintro ⟨i, rfl⟩
    exact List.mem_map_of_mem ((h.mem_iff haddr).mp ⟨i, rfl⟩)

/-- The address stands in slot `i`. -/
theorem update_found {c : PresenceCache N} {m : PresenceMap N} (h : Layout c m)
    (update : PresenceUpdate) {i : Fin N} (hi : (c.entries i).addr = update.val.addr) :
    Layout (storeEntry c i update.val) (m.put update.val) ∧
      (update.val ∈ m.entries ↔ (c.entries i).presence = update.val.presence) := by
  have hused : ¬ (c.entries i).addr = 0 := by
    rw [hi]
    exact update.property
  constructor
  · have hput : (m.put update.val).entries = m.entries.map fun old =>
        if old.addr = update.val.addr then update.val else old :=
      if_pos ((mem_addr_iff h update.property).mpr ⟨i, hi⟩)
    unfold Layout
    rw [hput]
    exact h.replace m.distinct hused update.property hi
  · constructor
    · intro hmem
      obtain ⟨i', hi'⟩ := (h.mem_iff update.property).mpr hmem
      have hused' : ¬ (c.entries i').addr = 0 := by
        rw [hi']
        exact update.property
      have hsame := h.slot_unique m.distinct hused hused' (by rw [hi, hi'])
      rw [hsame, hi']
    · intro hpresence
      exact (h.mem_iff update.property).mp ⟨i, PresenceCacheEntry.ext hi hpresence⟩

/-- The address stands in no slot. -/
theorem update_new {m : PresenceMap N} {update : PresenceUpdate}
    (hnew : update.val.addr ∉ m.entries.map PresenceCacheEntry.addr) :
    (m.put update.val).entries =
      (if m.entries.length < N then m.entries else m.entries.tail) ++ [update.val] :=
  if_neg hnew

/-- The first free slot is the one behind the entries. -/
theorem findEntry_free {c : PresenceCache N} {m : PresenceMap N} (h : Layout c m) {i : Fin N}
    (hfree : findEntry c (fun old => old.addr = 0) = some i) :
    ∃ hroom : m.entries.length < N, i = ⟨m.entries.length, hroom⟩ := by
  obtain ⟨hi, hbefore⟩ := findEntry_eq_some hfree
  have hle : m.entries.length ≤ i.val := (h.free_iff i).mp (by simpa using hi)
  have hroom : m.entries.length < N := Nat.lt_of_le_of_lt hle i.isLt
  refine ⟨hroom, Fin.le_antisymm (Fin.not_lt.mp fun hlt => ?_) hle⟩
  have hlast := h.rest ⟨m.entries.length, hroom⟩ (Nat.le_refl _)
  simpa [hlast] using hbefore _ hlt

/-- Without a free slot the map is full. -/
theorem findEntry_full {c : PresenceCache N} {m : PresenceMap N} (h : Layout c m)
    (hfree : findEntry c (fun old => old.addr = 0) = none) : m.entries.length = N := by
  refine Nat.le_antisymm m.bounded (Nat.le_of_not_lt fun hroom => ?_)
  have hlast := h.rest ⟨m.entries.length, hroom⟩ (Nat.le_refl _)
  simpa [hlast] using findEntry_eq_none hfree ⟨m.entries.length, hroom⟩

/-- One call refines one put, and its result says whether the entry is news. -/
theorem presenceCacheEntryCheckAndUpdate_layout {c : PresenceCache N} {m : PresenceMap N}
    (h : Layout c m) (update : PresenceUpdate) :
    Layout (presenceCacheEntryCheckAndUpdate update.val c).2 (m.put update.val) ∧
      ((presenceCacheEntryCheckAndUpdate update.val c).1 = true ↔ update.val ∉ m.entries) := by
  unfold presenceCacheEntryCheckAndUpdate
  split
  · next i hfind =>
      have hi : (c.entries i).addr = update.val.addr := by
        simpa using (findEntry_eq_some hfind).1
      obtain ⟨hlayout, hmem⟩ := update_found h update hi
      split
      · next hpresence =>
          have hentry : c.entries i = update.val := PresenceCacheEntry.ext hi hpresence
          have hsame : storeEntry c i update.val = c := by
            rw [storeEntry, ← hentry, Function.update_eq_self]
          rw [hsame] at hlayout
          refine ⟨hlayout, iff_of_false (by simp) (not_not_intro (hmem.mpr hpresence))⟩
      · next hpresence =>
          refine ⟨hlayout, iff_of_true rfl (fun hin => hpresence (hmem.mp hin))⟩
  · next hfind =>
      have habsent : ∀ i, (c.entries i).addr ≠ update.val.addr := by
        intro i
        simpa using findEntry_eq_none hfind i
      have hnew : update.val.addr ∉ m.entries.map PresenceCacheEntry.addr := by
        rw [mem_addr_iff h update.property]
        rintro ⟨i, hi⟩
        exact habsent i hi
      have hnews : update.val ∉ m.entries := fun hin => hnew (List.mem_map_of_mem hin)
      unfold Layout
      rw [update_new hnew]
      split
      · next i hfree =>
          obtain ⟨hroom, rfl⟩ := findEntry_free h hfree
          rw [if_pos hroom]
          exact ⟨h.push hroom update.property, iff_of_true rfl hnews⟩
      · next hfree =>
          have hfull := findEntry_full h hfree
          rw [if_neg (by omega)]
          exact ⟨h.evict hfull update.property, iff_of_true rfl hnews⟩

theorem runUpdates_layout (updates : List PresenceUpdate) :
    Layout (runUpdates updates : PresenceCache N) (abstractUpdates updates) := by
  induction updates using List.reverseRecOn with
  | nil => exact emptyCache_layout
  | append_singleton updates update ih =>
      unfold runUpdates abstractUpdates FifoMap.putAll at *
      rw [List.foldl_append, List.map_append, List.foldl_append]
      exact (presenceCacheEntryCheckAndUpdate_layout ih update).1

/-- The cache as an implementation of the abstract map. -/
structure Refines (c : PresenceCache N) (m : PresenceMap N) : Prop where
  contents : ∀ entry : PresenceCacheEntry, entry.addr ≠ 0 →
    ((∃ i, c.entries i = entry) ↔ entry ∈ m.entries)
  oneSlot : ∀ i j, (c.entries i).addr ≠ 0 → (c.entries i).addr = (c.entries j).addr → i = j
  freeSuffix : ∀ i j, i ≤ j → (c.entries i).addr = 0 → (c.entries j).addr = 0
  headOldest : m.entries.length = N → m.entries.head? = some (c.entries c.presenceCacheHead)

theorem refines_of_layout {c : PresenceCache N} {m : PresenceMap N} (h : Layout c m) :
    Refines c m where
  contents _ haddr := h.mem_iff haddr
  oneSlot i j hused hsame := h.slot_unique m.distinct hused (by rwa [← hsame]) hsame
  freeSuffix i j hle hfree := h.free_suffix hle hfree
  headOldest hfull := by
    have hpos : 0 < m.entries.length := by
      rw [hfull]
      exact NeZero.pos N
    rw [h.oldest hpos, List.head?_eq_getElem?, List.getElem?_eq_getElem hpos]

/-- After every sequence of calls the cache implements the map of the addresses
inserted last, each with its latest presence, and the next call returns whether
it brings news. -/
theorem presenceCache_refines (updates : List PresenceUpdate) (next : PresenceUpdate) :
    Refines (runUpdates updates : PresenceCache N) (abstractUpdates updates) ∧
    ((presenceCacheEntryCheckAndUpdate next.val (runUpdates updates : PresenceCache N)).1 = true ↔
      ∀ old ∈ (abstractUpdates updates : PresenceMap N).entries,
        old.addr = next.val.addr → old.presence ≠ next.val.presence) ∧
    (abstractUpdates updates : PresenceMap N).entries.map PresenceCacheEntry.addr =
      lastN N ((FifoMap.empty : PresenceMap N).insertions (updates.map Subtype.val)) ∧
    ∀ entry ∈ (abstractUpdates updates : PresenceMap N).entries,
      (updates.map Subtype.val).reverse.find? (fun call => call.addr = entry.addr) =
        some entry := by
  have hlayout := runUpdates_layout (N := N) updates
  refine ⟨refines_of_layout hlayout, ?_, FifoMap.foldl_put_keys FifoMap.empty _, ?_⟩
  · rw [(presenceCacheEntryCheckAndUpdate_layout hlayout next).2]
    constructor
    · intro hnews old hold haddr hpresence
      exact hnews (PresenceCacheEntry.ext haddr hpresence ▸ hold)
    · intro hdiffer hin
      exact hdiffer next.val hin rfl rfl
  · intro entry hentry
    exact FifoMap.putAll_latest _ hentry

/-- Three addresses through a cache of two: the first is forgotten. -/
def threeAddresses : List PresenceUpdate :=
  [⟨⟨1, .available⟩, by decide⟩, ⟨⟨2, .away⟩, by decide⟩, ⟨⟨3, .available⟩, by decide⟩]

theorem presenceCache_refines_threeAddresses :
    Refines (runUpdates threeAddresses : PresenceCache 2) (abstractUpdates threeAddresses) ∧
      (presenceCacheEntryCheckAndUpdate ⟨1, .available⟩
        (runUpdates threeAddresses : PresenceCache 2)).1 = true := by
  obtain ⟨hrefines, hnews, _⟩ :=
    presenceCache_refines (N := 2) threeAddresses ⟨⟨1, .available⟩, by decide⟩
  exact ⟨hrefines, hnews.mpr (by decide)⟩

end Breadcrumb.Mesh
