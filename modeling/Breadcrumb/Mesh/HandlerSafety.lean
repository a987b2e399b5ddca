import Breadcrumb.Mesh.ChatCli

/-!
Which payload lengths the receive handlers are safe on. The length is the
sender's choice; the handlers copy that many bytes, or one more, before they
look at it.
-/

namespace Breadcrumb.Mesh

open Breadcrumb.Machine

/-- The payload length a handler expects, where the source names one: "length
should just be 4". -/
def expectedLength : Opcode → Option Nat
  | .ping => some 4
  | .pingReply => some 4
  | _ => none

/-- The run of a handler on a payload of `length` bytes. -/
structure Safe (expected : Option Nat) (length : Nat) (run : HandlerRun) : Prop where
  stores : ∀ i, Access.store i ∈ run.accesses → i < run.bufferSize
  loads : ∀ i, Access.load i ∈ run.accesses → i < length
  supplied : ∀ i, Access.use i ∈ run.accesses → i < length
  ignored : ∀ l ∈ expected, length ≠ l → run.effects = []

/-- The first of the two words of a payload. -/
def firstWord (m : AccessMessageRx) : Word16 := assemble 16 [m.pData 0, m.pData 1]

/-- The inputs a handler is safe on. -/
def SafeInput (localAddr : Word16) (m : AccessMessageRx) : Opcode → Prop
  | .message => False
  | .ping => m.length = 4
  | .pingReply => m.length = 4 ∨ (2 ≤ m.length ∧ m.length ≤ 3) ∧ firstWord m ≠ localAddr
  | .privateMessage => True
  | .messageReply => True

theorem handleDummy_safe (name : Opcode) (length : Nat) :
    Safe none length (handleDummy name) where
  stores _ hi := absurd hi List.not_mem_nil
  loads _ hi := absurd hi List.not_mem_nil
  supplied _ hi := absurd hi List.not_mem_nil
  ignored l hl := absurd hl (Option.not_mem_none l)

/-- The copy is one byte longer than the payload, whatever its length. -/
theorem handleMessage_not_safe (stack : Buffer 100) (m : AccessMessageRx) :
    ¬ Safe none m.length (handleMessage stack m) := by
  intro hsafe
  have hload : Access.load m.length ∈ (handleMessage stack m).accesses :=
    List.mem_append_left _ (load_mem_memcpyAccesses.mpr (Nat.lt_succ_self _))
  exact absurd (hsafe.loads _ hload) (Nat.lt_irrefl _)

/-- A run that copies the payload and looks at words of it. -/
structure Copies (length : Nat) (words : List (Fin 2)) (run : HandlerRun) : Prop where
  size : run.bufferSize = 4
  accesses : run.accesses = memcpyAccesses length ++ words.flatMap rxPayloadUse

theorem mem_rxPayloadUse {a : Access} {word : Fin 2} :
    a ∈ rxPayloadUse word ↔ a = .use (2 * word.val) ∨ a = .use (2 * word.val + 1) := by
  obtain rfl | rfl : word = 0 ∨ word = 1 := by omega
  · simp [rxPayloadUse]
  · simp [rxPayloadUse]

theorem Copies.mem_iff {length : Nat} {words : List (Fin 2)} {run : HandlerRun}
    (h : Copies length words run) {a : Access} :
    a ∈ run.accesses ↔ a ∈ memcpyAccesses length ∨
      ∃ word ∈ words, a = .use (2 * word.val) ∨ a = .use (2 * word.val + 1) := by
  rw [h.accesses, List.mem_append, List.mem_flatMap]
  simp only [mem_rxPayloadUse]

theorem Copies.store_iff {length : Nat} {words : List (Fin 2)} {run : HandlerRun}
    (h : Copies length words run) {i : Nat} : Access.store i ∈ run.accesses ↔ i < length := by
  rw [h.mem_iff, store_mem_memcpyAccesses]
  simp

theorem Copies.load_iff {length : Nat} {words : List (Fin 2)} {run : HandlerRun}
    (h : Copies length words run) {i : Nat} : Access.load i ∈ run.accesses ↔ i < length := by
  rw [h.mem_iff, load_mem_memcpyAccesses]
  simp

theorem Copies.use_iff {length : Nat} {words : List (Fin 2)} {run : HandlerRun}
    (h : Copies length words run) {i : Nat} : Access.use i ∈ run.accesses ↔
      ∃ word ∈ words, i = 2 * word.val ∨ i = 2 * word.val + 1 := by
  rw [h.mem_iff]
  simp only [use_not_mem_memcpyAccesses, false_or, Access.use.injEq]

/-- Such a run is safe if the copy fits, the words it looks at have arrived, and
it does nothing with a payload of another length. -/
theorem safe_iff_of_copies {length : Nat} {words : List (Fin 2)} {run : HandlerRun}
    (h : Copies length words run) :
    Safe (some 4) length run ↔
      length ≤ 4 ∧ (∀ word ∈ words, 2 * word.val + 1 < length) ∧
        (length ≠ 4 → run.effects = []) := by
  constructor
  · intro hsafe
    refine ⟨?_, ?_, hsafe.ignored 4 rfl⟩
    · by_contra hlong
      have hstored := hsafe.stores 4 (h.store_iff.mpr (by omega))
      rw [h.size] at hstored
      omega
    · intro word hword
      exact hsafe.supplied _ (h.use_iff.mpr ⟨word, hword, Or.inr rfl⟩)
  · rintro ⟨hfits, harrived, hignored⟩
    refine ⟨?_, fun i hi => h.load_iff.mp hi, ?_, ?_⟩
    · intro i hi
      rw [h.size]
      exact Nat.lt_of_lt_of_le (h.store_iff.mp hi) hfits
    · intro i hi
      obtain ⟨word, hmem, hbyte⟩ := h.use_iff.mp hi
      have := harrived word hmem
      omega
    · intro l hl hlength
      cases hl
      exact hignored hlength

theorem handlePing_copies (stack : Buffer 4) (localAddr : Word16) (m : AccessMessageRx) :
    ∃ words, 1 ∈ words ∧ Copies m.length words (handlePing stack localAddr m) := by
  simp only [handlePing]
  split
  · exact ⟨[0, 1, 1], by simp, rfl, by simp⟩
  · split
    · exact ⟨[0, 1, 1, 0, 1], by simp, rfl, by simp⟩
    · exact ⟨[0, 1, 1, 0], by simp, rfl, by simp⟩

theorem handlePing_safe_iff (stack : Buffer 4) (localAddr : Word16) (m : AccessMessageRx) :
    Safe (some 4) m.length (handlePing stack localAddr m) ↔ m.length = 4 := by
  obtain ⟨words, hlast, hcopies⟩ := handlePing_copies stack localAddr m
  rw [safe_iff_of_copies hcopies]
  constructor
  · rintro ⟨hfits, harrived, _⟩
    have : 2 * 1 + 1 < m.length := harrived 1 hlast
    omega
  · intro hlength
    refine ⟨Nat.le_of_eq hlength, ?_, fun hother => absurd hlength hother⟩
    intro word _
    have := word.isLt
    omega

/-- The first word is the payload's own once two bytes have arrived. -/
theorem rxPayload_first {m : AccessMessageRx} (h : 2 ≤ m.length) (stack : Buffer 4) :
    rxPayload (overlay stack m.length m.pData) 0 = firstWord m := by
  have h0 : overlay stack m.length m.pData 0 = m.pData 0 := overlay_of_lt (by simp; omega)
  have h1 : overlay stack m.length m.pData 1 = m.pData 1 := overlay_of_lt (by simp; omega)
  rw [rxPayload, h0, h1, firstWord]

theorem handlePingReply_safe_iff (stack : Buffer 4) (localAddr : Word16) (m : AccessMessageRx) :
    Safe (some 4) m.length (handlePingReply stack localAddr m) ↔
      m.length = 4 ∨ (2 ≤ m.length ∧ m.length ≤ 3) ∧ firstWord m ≠ localAddr := by
  by_cases haddressed : rxPayload (overlay stack m.length m.pData) 0 = localAddr
  · have hcopies : Copies m.length [0, 0, 1] (handlePingReply stack localAddr m) := by
      rw [handlePingReply, if_pos haddressed]
      exact ⟨rfl, by simp⟩
    rw [safe_iff_of_copies hcopies]
    constructor
    · rintro ⟨hfits, harrived, _⟩
      have : 2 * 1 + 1 < m.length := harrived 1 (by simp)
      exact Or.inl (by omega)
    · rintro (hlength | ⟨⟨hlow, _⟩, hother⟩)
      · refine ⟨Nat.le_of_eq hlength, ?_, fun hne => absurd hlength hne⟩
        intro word _
        have := word.isLt
        omega
      · exact absurd ((rxPayload_first hlow stack).symm.trans haddressed) hother
  · have hrun : handlePingReply stack localAddr m =
        ⟨4, memcpyAccesses m.length ++ rxPayloadUse 0, []⟩ := if_neg haddressed
    have hcopies : Copies m.length [0] (handlePingReply stack localAddr m) := by
      rw [hrun]
      exact ⟨rfl, by simp⟩
    rw [safe_iff_of_copies hcopies, hrun]
    constructor
    · rintro ⟨hfits, harrived, _⟩
      have hlow : 2 * 0 + 1 < m.length := harrived 0 (by simp)
      rw [rxPayload_first (by omega)] at haddressed
      by_cases hlength : m.length = 4
      · exact Or.inl hlength
      · exact Or.inr ⟨⟨by omega, by omega⟩, haddressed⟩
    · intro hlength
      refine ⟨by omega, ?_, fun _ => rfl⟩
      intro word hword
      rw [List.mem_singleton.mp hword]
      have : 2 ≤ m.length := by omega
      exact this

/-- Every handler of `m_opcode_handlers` at every payload: what it is safe on. -/
theorem opcodeHandler_safe_iff (stack : Buffer 100) (localAddr : Word16) (m : AccessMessageRx)
    (opcode : Opcode) :
    Safe (expectedLength opcode) m.length (opcodeHandler stack localAddr m opcode) ↔
      SafeInput localAddr m opcode := by
  cases opcode with
  | message => exact iff_of_false (handleMessage_not_safe stack m) id
  | privateMessage => exact iff_of_true (handleDummy_safe _ _) trivial
  | messageReply => exact iff_of_true (handleDummy_safe _ _) trivial
  | ping => exact handlePing_safe_iff _ localAddr m
  | pingReply => exact handlePingReply_safe_iff _ localAddr m

/-- A ping of six bytes writes behind the two words it is copied to. -/
def longPing : AccessMessageRx := ⟨fun _ => 0xFF, 6⟩

theorem opcodeHandler_longPing :
    ¬ ∀ stack localAddr m opcode,
      Safe (expectedLength opcode) m.length (opcodeHandler stack localAddr m opcode) := by
  intro hsafe
  have hstore := (hsafe (fun _ => 0) 1 longPing .ping).stores 5 (by decide +kernel)
  exact absurd hstore (by decide +kernel)

end Breadcrumb.Mesh
