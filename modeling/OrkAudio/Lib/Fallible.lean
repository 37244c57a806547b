import Mathlib.Logic.Basic

/-! Sequences of fallible computations. -/

namespace OrkAudio.Lib

variable {ε α β : Type*}

/-- A sequence of fallible steps returns when each of them does. -/
theorem bind_eq_ok {ε α β : Type} {x : Except ε α} {f : α → Except ε β} {result : β} :
    (x >>= f) = .ok result ↔ ∃ a, x = .ok a ∧ f a = .ok result := by
  cases x <;> simp [bind, Except.bind]

/-- The computation returns. -/
def Succeeds (x : Except ε α) : Prop := ∃ a, x = .ok a

@[simp] theorem succeeds_ok (a : α) : Succeeds (.ok a : Except ε α) := ⟨a, rfl⟩

@[simp] theorem not_succeeds_error (e : ε) : ¬ Succeeds (.error e : Except ε α) := by
  rintro ⟨a, ha⟩
  cases ha

theorem succeeds_bind {ε α β : Type} {x : Except ε α} {f : α → Except ε β} :
    Succeeds (x >>= f) ↔ ∃ a, x = .ok a ∧ Succeeds (f a) := by
  cases x <;> simp [bind, Except.bind]

theorem succeeds_if {x y : Except ε α} {p : Prop} [Decidable p] :
    Succeeds (if p then x else y) ↔ (p → Succeeds x) ∧ (¬ p → Succeeds y) := by
  split <;> simp [*]

end OrkAudio.Lib
