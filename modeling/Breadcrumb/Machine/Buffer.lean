import Breadcrumb.Machine.Words

/-!
Fixed-size byte arrays and the C library calls that work on them. Copying is
an overlay: bytes below the length come from the source, the others keep what
was there. `strlen` answers `none` where the scan for the terminating NUL
would leave the array.
-/

namespace Breadcrumb.Machine

abbrev Buffer (n : Nat) := Fin n → Byte

variable {n : Nat}

/-- `memcpy(buf, src, len)`, as far as it stays inside `buf`. -/
def overlay (buf : Buffer n) (len : Nat) (src : Nat → Byte) : Buffer n :=
  fun i => if i.val < len then src i.val else buf i

/-- `memcmp(a, b, len) == 0`. -/
def SameBytes (len : Nat) (a b : Buffer n) : Prop := ∀ i, i.val < len → a i = b i

instance (len : Nat) (a b : Buffer n) : Decidable (SameBytes len a b) :=
  inferInstanceAs (Decidable (∀ i : Fin n, i.val < len → a i = b i))

/-- A list of bytes seen through a pointer to its first one. -/
def pointer (bytes : List Byte) : Nat → Byte := fun i => bytes.getD i 0

/-- The array behind a pointer into `buf`; zero where it ends. -/
def bytesAt (buf : Buffer n) (offset : Nat) : Nat → Byte :=
  fun i => if h : offset + i < n then buf ⟨offset + i, h⟩ else 0

def bytes (buf : Buffer n) : List Byte := List.ofFn buf

/-- `strlen(buf)`, `none` if no NUL stands in the array. -/
def strlen (buf : Buffer n) : Option Nat := (bytes buf).findIdx? (· == 0)

/-- The text a `%s` conversion prints. -/
def cString (buf : Buffer n) : Option (List Byte) :=
  (strlen buf).map (bytes buf).take

/-- No byte of the text is the terminator. -/
def NulFree (text : List Byte) : Prop := ∀ byte ∈ text, byte ≠ 0

instance (text : List Byte) : Decidable (NulFree text) :=
  inferInstanceAs (Decidable (∀ byte ∈ text, byte ≠ 0))

@[simp] theorem bytes_length (buf : Buffer n) : (bytes buf).length = n := by
  simp [bytes]

theorem overlay_of_lt {buf : Buffer n} {len : Nat} {src : Nat → Byte} {i : Fin n}
    (h : i.val < len) : overlay buf len src i = src i.val := by
  simp [overlay, h]

theorem overlay_of_le {buf : Buffer n} {len : Nat} {src : Nat → Byte} {i : Fin n}
    (h : len ≤ i.val) : overlay buf len src i = buf i := by
  simp [overlay, Nat.not_lt.mpr h]

theorem pointer_of_lt {text : List Byte} {i : Nat} (h : i < text.length) :
    pointer text i = text[i] := by
  simp [pointer, h]

theorem pointer_append_of_lt {text rest : List Byte} {i : Nat} (h : i < text.length) :
    pointer (text ++ rest) i = pointer text i := by
  rw [pointer, pointer, List.getD_eq_getElem?_getD, List.getD_eq_getElem?_getD,
    List.getElem?_append_left h]

theorem bytesAt_of_lt {buf : Buffer n} {offset i : Nat} (h : offset + i < n) :
    bytesAt buf offset i = buf ⟨offset + i, h⟩ := by
  simp [bytesAt, h]

/-- The scan stops at the first NUL of the array. -/
theorem strlen_eq_some {buf : Buffer n} {len : Nat} :
    strlen buf = some len ↔
      ∃ h : len < n, buf ⟨len, h⟩ = 0 ∧ ∀ i : Fin n, i.val < len → buf i ≠ 0 := by
  rw [strlen, List.findIdx?_eq_some_iff_getElem]
  constructor
  · rintro ⟨hlen, hzero, hbefore⟩
    have hn : len < n := by simpa using hlen
    refine ⟨hn, by simpa [bytes] using hzero, ?_⟩
    intro i hi
    simpa [bytes] using hbefore i.val hi
  · rintro ⟨hn, hzero, hbefore⟩
    refine ⟨by simpa using hn, by simpa [bytes] using hzero, ?_⟩
    intro j hj
    simpa [bytes] using hbefore ⟨j, Nat.lt_trans hj hn⟩ hj

/-- A string is followed by its NUL. -/
theorem cString_nul {buf : Buffer n} {text : List Byte} (h : cString buf = some text) :
    ∃ hlt : text.length < n, buf ⟨text.length, hlt⟩ = 0 := by
  rw [cString, Option.map_eq_some_iff] at h
  obtain ⟨len, hstrlen, rfl⟩ := h
  obtain ⟨hlt, hnul, _⟩ := strlen_eq_some.mp hstrlen
  have hlen : ((bytes buf).take len).length = len := by
    rw [List.length_take, bytes_length]
    exact Nat.min_eq_left (Nat.le_of_lt hlt)
  simp only [hlen]
  exact ⟨hlt, hnul⟩

/-- A text copied in front of a NUL is what the array then holds as a string. -/
theorem cString_eq_some {buf : Buffer n} {text : List Byte}
    (hlen : text.length < n) (hfree : NulFree text)
    (hcopy : ∀ i : Fin n, i.val < text.length → buf i = pointer text i.val)
    (hnul : buf ⟨text.length, hlen⟩ = 0) :
    cString buf = some text := by
  have hstrlen : strlen buf = some text.length := by
    refine strlen_eq_some.mpr ⟨hlen, hnul, ?_⟩
    intro i hi
    rw [hcopy i hi, pointer_of_lt hi]
    exact hfree _ (List.getElem_mem hi)
  rw [cString, hstrlen, Option.map_some]
  congr 1
  apply List.ext_getElem
  · simp [Nat.le_of_lt hlen]
  · intro i hi htext
    have hi' : i < n := Nat.lt_trans htext hlen
    simpa [bytes, pointer_of_lt htext] using hcopy ⟨i, hi'⟩ htext

end Breadcrumb.Machine
