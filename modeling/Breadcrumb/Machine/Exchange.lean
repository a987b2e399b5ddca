import Mathlib

/-!
A full-duplex exchange: for every symbol a slave is sent it gives one back,
between the edges of its select line. Sending one list behind another is
sending both, so what a slave has seen is all that a partial exchange leaves
behind.
-/

namespace Breadcrumb.Machine

variable {V τ : Type}

structure Slave (V τ : Type) where
  select : τ → τ
  exchange : τ → V → V × τ
  deselect : τ → τ

namespace Slave

/-- What the slave answers to the symbols, one by one. -/
def answers (slave : Slave V τ) : τ → List V → List V
  | _, [] => []
  | t, v :: vs => (slave.exchange t v).1 :: slave.answers (slave.exchange t v).2 vs

/-- The slave behind the symbols. -/
def behind (slave : Slave V τ) : τ → List V → τ
  | t, [] => t
  | t, v :: vs => slave.behind (slave.exchange t v).2 vs

variable (slave : Slave V τ)

@[simp] theorem answers_nil (t : τ) : slave.answers t [] = [] := rfl

@[simp] theorem behind_nil (t : τ) : slave.behind t [] = t := rfl

@[simp] theorem answers_length (t : τ) (vs : List V) :
    (slave.answers t vs).length = vs.length := by
  induction vs generalizing t with
  | nil => rfl
  | cons v vs ih => rw [answers, List.length_cons, ih, List.length_cons]

theorem behind_append (t : τ) (vs ws : List V) :
    slave.behind t (vs ++ ws) = slave.behind (slave.behind t vs) ws := by
  induction vs generalizing t with
  | nil => rfl
  | cons v vs ih => exact ih _

theorem answers_append (t : τ) (vs ws : List V) :
    slave.answers t (vs ++ ws) = slave.answers t vs ++ slave.answers (slave.behind t vs) ws := by
  induction vs generalizing t with
  | nil => rfl
  | cons v vs ih => exact congrArg (_ :: ·) (ih _)

/-- One more symbol. -/
theorem behind_concat (t : τ) (vs : List V) (v : V) :
    slave.behind t (vs ++ [v]) = (slave.exchange (slave.behind t vs) v).2 :=
  slave.behind_append t vs [v]

theorem answers_concat (t : τ) (vs : List V) (v : V) :
    slave.answers t (vs ++ [v]) =
      slave.answers t vs ++ [(slave.exchange (slave.behind t vs) v).1] :=
  slave.answers_append t vs [v]

end Slave

end Breadcrumb.Machine
