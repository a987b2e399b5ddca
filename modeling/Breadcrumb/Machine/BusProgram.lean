import Mathlib

/-!
Programs that reach a device over a bus. A program is a tree of accesses that
branches on what the device answers, so the same program can be run on an
ideal device and on whatever carries the accesses to a real one. The rules
compose runs, compose pre- and postconditions, keep what a program cannot
touch, and carry a program from one device to another that simulates it.
-/

namespace Breadcrumb.Machine

variable {A V α β γ δ δ' : Type}

inductive BusProgram (A V α : Type) where
  | done (result : α)
  | read (addr : A) (length : Nat) (next : List V → BusProgram A V α)
  | write (addr : A) (values : List V) (next : BusProgram A V α)
  | sleep (ms : Nat) (next : BusProgram A V α)

namespace BusProgram

def bind : BusProgram A V α → (α → BusProgram A V β) → BusProgram A V β
  | done a, f => f a
  | read addr n next, f => read addr n fun values => (next values).bind f
  | write addr values next, f => write addr values (next.bind f)
  | sleep ms next, f => sleep ms (next.bind f)

instance : Monad (BusProgram A V) where
  pure := done
  bind := bind

theorem bind_done (p : BusProgram A V α) : p.bind done = p := by
  induction p with
  | done => rfl
  | read addr n next ih => simp only [bind, ih]
  | write addr values next ih => simp only [bind, ih]
  | sleep ms next ih => simp only [bind, ih]

theorem bind_assoc (p : BusProgram A V α) (f : α → BusProgram A V β)
    (g : β → BusProgram A V γ) : (p.bind f).bind g = p.bind fun a => (f a).bind g := by
  induction p with
  | done => rfl
  | read addr n next ih => simp only [bind, ih]
  | write addr values next ih => simp only [bind, ih]
  | sleep ms next ih => simp only [bind, ih]

instance : LawfulMonad (BusProgram A V) :=
  LawfulMonad.mk' _ (bind_done ·) (fun _ _ => rfl) bind_assoc

end BusProgram

/-- What a program can ask of a device. A read answers as many values as were
asked for. -/
structure Device (A V δ : Type) where
  read : δ → A → Nat → List V × δ
  write : δ → A → List V → δ
  sleep : δ → Nat → δ
  read_length : ∀ d addr n, (read d addr n).1.length = n

namespace BusProgram

/-- The result of a program on a device, and the device behind it. -/
def run (dev : Device A V δ) : BusProgram A V α → δ → α × δ
  | done a, d => (a, d)
  | read addr n next, d => run dev (next (dev.read d addr n).1) (dev.read d addr n).2
  | write addr values next, d => run dev next (dev.write d addr values)
  | sleep ms next, d => run dev next (dev.sleep d ms)

@[simp] theorem run_pure (dev : Device A V δ) (a : α) (d : δ) :
    run dev (pure a) d = (a, d) := rfl

@[simp] theorem run_bind (dev : Device A V δ) (p : BusProgram A V α)
    (f : α → BusProgram A V β) (d : δ) :
    run dev (p >>= f) d = run dev (f (run dev p d).1) (run dev p d).2 := by
  change run dev (p.bind f) d = _
  induction p generalizing d with
  | done => rfl
  | read addr n next ih => exact ih _ _
  | write addr values next ih => exact ih _
  | sleep ms next ih => exact ih _

@[simp] theorem run_map (dev : Device A V δ) (f : α → β) (p : BusProgram A V α) (d : δ) :
    run dev (f <$> p) d = (f (run dev p d).1, (run dev p d).2) := by
  rw [← bind_pure_comp, run_bind]
  rfl

/-- The writes a program puts on the bus, in order. -/
def writes (dev : Device A V δ) : BusProgram A V α → δ → List (A × List V)
  | done _, _ => []
  | read addr n next, d => writes dev (next (dev.read d addr n).1) (dev.read d addr n).2
  | write addr values next, d => (addr, values) :: writes dev next (dev.write d addr values)
  | sleep ms next, d => writes dev next (dev.sleep d ms)

@[simp] theorem writes_pure (dev : Device A V δ) (a : α) (d : δ) :
    writes dev (pure a) d = [] := rfl

@[simp] theorem writes_bind (dev : Device A V δ) (p : BusProgram A V α)
    (f : α → BusProgram A V β) (d : δ) :
    writes dev (p >>= f) d = writes dev p d ++ writes dev (f (run dev p d).1) (run dev p d).2 := by
  change writes dev (p.bind f) d = _
  induction p generalizing d with
  | done => rfl
  | read addr n next ih => exact ih _ _
  | write addr values next ih => exact congrArg (_ :: ·) (ih _)
  | sleep ms next ih => exact ih _

/-- The reads a program makes, in order, and what the device answers. -/
def reads (dev : Device A V δ) : BusProgram A V α → δ → List (A × List V)
  | done _, _ => []
  | read addr n next, d =>
      (addr, (dev.read d addr n).1) :: reads dev (next (dev.read d addr n).1) (dev.read d addr n).2
  | write addr values next, d => reads dev next (dev.write d addr values)
  | sleep ms next, d => reads dev next (dev.sleep d ms)

@[simp] theorem reads_pure (dev : Device A V δ) (a : α) (d : δ) :
    reads dev (pure a) d = [] := rfl

@[simp] theorem reads_bind (dev : Device A V δ) (p : BusProgram A V α)
    (f : α → BusProgram A V β) (d : δ) :
    reads dev (p >>= f) d = reads dev p d ++ reads dev (f (run dev p d).1) (run dev p d).2 := by
  change reads dev (p.bind f) d = _
  induction p generalizing d with
  | done => rfl
  | read addr n next ih => exact congrArg (_ :: ·) (ih _ _)
  | write addr values next ih => exact ih _
  | sleep ms next ih => exact ih _

/-! Pre- and postconditions. -/

/-- From every state that meets `P` the program ends in a result and a state that meet `Q`. -/
def Triple (dev : Device A V δ) (P : δ → Prop) (p : BusProgram A V α) (Q : α → δ → Prop) : Prop :=
  ∀ d, P d → Q (run dev p d).1 (run dev p d).2

variable {dev : Device A V δ} {P : δ → Prop} {Q : α → δ → Prop}

theorem triple_pure (a : α) (h : ∀ d, P d → Q a d) : Triple dev P (pure a) Q := h

theorem triple_bind {p : BusProgram A V α} {f : α → BusProgram A V β} {R : β → δ → Prop}
    (hp : Triple dev P p Q) (hf : ∀ a, Triple dev (Q a) (f a) R) :
    Triple dev P (p >>= f) R := by
  intro d hd
  rw [run_bind]
  exact hf _ _ (hp d hd)

/-! What a program touches. -/

/-- Every access the program can come to is one of the given reads and writes. -/
def Touches (reads : A → Nat → Prop) (writes : A → List V → Prop) : BusProgram A V α → Prop
  | done _ => True
  | read addr n next =>
      reads addr n ∧ ∀ values, values.length = n → (next values).Touches reads writes
  | write addr values next => writes addr values ∧ next.Touches reads writes
  | sleep _ next => next.Touches reads writes

section Touches

variable {reads : A → Nat → Prop} {writes : A → List V → Prop}

@[simp] theorem touches_pure (a : α) :
    Touches reads writes (pure a : BusProgram A V α) := trivial

theorem touches_bind {p : BusProgram A V α} {f : α → BusProgram A V β}
    (hp : p.Touches reads writes) (hf : ∀ a, (f a).Touches reads writes) :
    (p >>= f).Touches reads writes := by
  change (p.bind f).Touches reads writes
  induction p with
  | done a => exact hf a
  | read addr n next ih => exact ⟨hp.1, fun values hlen => ih values (hp.2 values hlen)⟩
  | write addr values next ih => exact ⟨hp.1, ih hp.2⟩
  | sleep ms next ih => exact ih hp

theorem touches_map {p : BusProgram A V α} (hp : p.Touches reads writes) (f : α → β) :
    (f <$> p).Touches reads writes := by
  rw [← bind_pure_comp]
  exact touches_bind hp fun _ => trivial

theorem Touches.mono {reads' : A → Nat → Prop} {writes' : A → List V → Prop}
    {p : BusProgram A V α} (h : p.Touches reads writes)
    (hreads : ∀ addr n, reads addr n → reads' addr n)
    (hwrites : ∀ addr values, writes addr values → writes' addr values) :
    p.Touches reads' writes' := by
  induction p with
  | done a => trivial
  | read addr n next ih =>
      exact ⟨hreads addr n h.1, fun values hlen => ih values (h.2 values hlen)⟩
  | write addr values next ih => exact ⟨hwrites addr values h.1, ih h.2⟩
  | sleep ms next ih => exact ih h

/-- The frame rule: what every access of a program keeps, the program keeps. -/
theorem Touches.keeps {p : BusProgram A V α} (h : p.Touches reads writes) {P : δ → Prop}
    (hread : ∀ d addr n, reads addr n → P d → P (dev.read d addr n).2)
    (hwrite : ∀ d addr values, writes addr values → P d → P (dev.write d addr values))
    (hsleep : ∀ d ms, P d → P (dev.sleep d ms)) :
    Triple dev P p fun _ => P := by
  intro d hd
  induction p generalizing d with
  | done a => exact hd
  | read addr n next ih =>
      exact ih _ (h.2 _ (dev.read_length d addr n)) _ (hread d addr n h.1 hd)
  | write addr values next ih => exact ih h.2 _ (hwrite d addr values h.1 hd)
  | sleep ms next ih => exact ih h _ (hsleep d ms hd)

end Touches

/-! What a program returns. -/

/-- Whatever is read, the result is one of `Q`. -/
def Returns (Q : α → Prop) : BusProgram A V α → Prop
  | done a => Q a
  | read _ n next => ∀ values, values.length = n → (next values).Returns Q
  | write _ _ next => next.Returns Q
  | sleep _ next => next.Returns Q

section Returns

variable {P : α → Prop} {Q : β → Prop}

theorem returns_bind {p : BusProgram A V α} {f : α → BusProgram A V β} (hp : p.Returns P)
    (hf : ∀ a, P a → (f a).Returns Q) : (p >>= f).Returns Q := by
  change (p.bind f).Returns Q
  induction p with
  | done a => exact hf a hp
  | read addr n next ih => exact fun values hlen => ih values (hp values hlen)
  | write addr values next ih => exact ih hp
  | sleep ms next ih => exact ih hp

theorem returns_map {p : BusProgram A V α} {f : α → β} (hp : p.Returns fun a => Q (f a)) :
    (f <$> p).Returns Q := by
  rw [← bind_pure_comp]
  exact returns_bind hp fun _ h => h

theorem returns_any (p : BusProgram A V α) : p.Returns fun _ => True := by
  induction p with
  | done a => trivial
  | read addr n next ih => exact fun values _ => ih values
  | write addr values next ih => exact ih
  | sleep ms next ih => exact ih

theorem Returns.run {p : BusProgram A V α} (hp : p.Returns P) (dev : Device A V δ) (d : δ) :
    P (p.run dev d).1 := by
  induction p generalizing d with
  | done a => exact hp
  | read addr n next ih => exact ih _ (hp _ (dev.read_length d addr n)) _
  | write addr values next ih => exact ih hp _
  | sleep ms next ih => exact ih hp _

end Returns

end BusProgram

/-! What carries the accesses. -/

/-- How single accesses come about in a system that is not deterministic. -/
structure Carrier (A V σ : Type) where
  Reads : σ → A → Nat → List V → σ → Prop
  Writes : σ → A → List V → σ → Prop
  Sleeps : σ → Nat → σ → Prop

/-- An execution of a program by a carrier. -/
inductive Exec {σ : Type} (c : Carrier A V σ) : BusProgram A V α → σ → α → σ → Prop where
  | done (a : α) (s : σ) : Exec c (.done a) s a s
  | read {addr : A} {n : Nat} {next : List V → BusProgram A V α} {s s₁ s' : σ}
      {values : List V} {a : α} :
      c.Reads s addr n values s₁ → Exec c (next values) s₁ a s' →
      Exec c (.read addr n next) s a s'
  | write {addr : A} {values : List V} {next : BusProgram A V α} {s s₁ s' : σ} {a : α} :
      c.Writes s addr values s₁ → Exec c next s₁ a s' → Exec c (.write addr values next) s a s'
  | sleep {ms : Nat} {next : BusProgram A V α} {s s₁ s' : σ} {a : α} :
      c.Sleeps s ms s₁ → Exec c next s₁ a s' → Exec c (.sleep ms next) s a s'

/-- Single accesses from related states: the carrier completes each of them, and however
it does, the device gives the same answer and the states are related again. -/
structure Simulates {σ : Type} (c : Carrier A V σ) (dev : Device A V δ) (R : σ → δ → Prop)
    (reads : A → Nat → Prop) (writes : A → List V → Prop) : Prop where
  read_total : ∀ s d addr n, R s d → reads addr n → ∃ values s', c.Reads s addr n values s'
  read_sound : ∀ s d addr n values s', R s d → reads addr n → c.Reads s addr n values s' →
    values = (dev.read d addr n).1 ∧ R s' (dev.read d addr n).2
  write_total : ∀ s d addr values, R s d → writes addr values → ∃ s', c.Writes s addr values s'
  write_sound : ∀ s d addr values s', R s d → writes addr values → c.Writes s addr values s' →
    R s' (dev.write d addr values)
  sleep_total : ∀ s d ms, R s d → ∃ s', c.Sleeps s ms s'
  sleep_sound : ∀ s d ms s', R s d → c.Sleeps s ms s' → R s' (dev.sleep d ms)

section Simulates

variable {σ : Type} {c : Carrier A V σ} {dev : Device A V δ} {R : σ → δ → Prop}
  {reads : A → Nat → Prop} {writes : A → List V → Prop}

/-- Every execution of a program within the simulated accesses ends as its run does. -/
theorem Simulates.exec_eq_run (h : Simulates c dev R reads writes) {p : BusProgram A V α}
    (hp : p.Touches reads writes) {s s' : σ} {d : δ} {a : α} (hR : R s d)
    (hexec : Exec c p s a s') :
    a = (p.run dev d).1 ∧ R s' (p.run dev d).2 := by
  induction hexec generalizing d with
  | done a s => exact ⟨rfl, hR⟩
  | read hread _ ih =>
      obtain ⟨rfl, hR'⟩ := h.read_sound _ _ _ _ _ _ hR hp.1 hread
      exact ih (hp.2 _ (dev.read_length d _ _)) hR'
  | write hwrite _ ih => exact ih hp.2 (h.write_sound _ _ _ _ _ hR hp.1 hwrite)
  | sleep hsleep _ ih => exact ih hp (h.sleep_sound _ _ _ _ hR hsleep)

/-- A program within the simulated accesses has an execution. -/
theorem Simulates.exec_total (h : Simulates c dev R reads writes) {p : BusProgram A V α}
    (hp : p.Touches reads writes) {s : σ} {d : δ} (hR : R s d) :
    ∃ a s', Exec c p s a s' := by
  induction p generalizing s d with
  | done a => exact ⟨a, s, .done a s⟩
  | read addr n next ih =>
      obtain ⟨values, s₁, hread⟩ := h.read_total s d addr n hR hp.1
      obtain ⟨rfl, hR'⟩ := h.read_sound _ _ _ _ _ _ hR hp.1 hread
      obtain ⟨a, s', hrest⟩ := ih _ (hp.2 _ (dev.read_length d _ _)) hR'
      exact ⟨a, s', .read hread hrest⟩
  | write addr values next ih =>
      obtain ⟨s₁, hwrite⟩ := h.write_total s d addr values hR hp.1
      obtain ⟨a, s', hrest⟩ := ih hp.2 (h.write_sound _ _ _ _ _ hR hp.1 hwrite)
      exact ⟨a, s', .write hwrite hrest⟩
  | sleep ms next ih =>
      obtain ⟨s₁, hsleep⟩ := h.sleep_total s d ms hR
      obtain ⟨a, s', hrest⟩ := ih hp (h.sleep_sound _ _ _ _ hR hsleep)
      exact ⟨a, s', .sleep hsleep hrest⟩

end Simulates

end Breadcrumb.Machine
