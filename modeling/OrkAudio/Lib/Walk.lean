import Mathlib.Logic.Relation

/-! Walks from place to place by a function that says where to go next, if anywhere. -/

namespace OrkAudio.Lib

variable {α : Type*} {next : α → Option α} {P : α → Prop} {a b c : α}

/-- The places that the walk from `a` comes to, `a` among them. -/
def Walk (next : α → Option α) : α → α → Prop :=
  Relation.ReflTransGen fun a b => next a = some b

theorem walk_refl (next : α → Option α) (a : α) : Walk next a a := Relation.ReflTransGen.refl

theorem walk_of_none (hnone : next a = none) : Walk next a b ↔ b = a := by
  constructor
  · intro walk
    rcases Relation.ReflTransGen.cases_head walk with heq | ⟨c, hc, _⟩
    · exact heq.symm
    · rw [hnone] at hc
      cases hc
  · intro heq
    rw [heq]
    exact walk_refl next a

theorem walk_of_some (hsome : next a = some c) : Walk next a b ↔ b = a ∨ Walk next c b := by
  constructor
  · intro walk
    rcases Relation.ReflTransGen.cases_head walk with heq | ⟨d, hd, rest⟩
    · exact Or.inl heq.symm
    · rw [hsome] at hd
      rw [Option.some.inj hd]
      exact Or.inr rest
  · intro h
    rcases h with rfl | walk
    · exact walk_refl next b
    · exact Relation.ReflTransGen.head hsome walk

theorem forall_walk_of_none (hnone : next a = none) : (∀ b, Walk next a b → P b) ↔ P a := by
  simp only [walk_of_none hnone, forall_eq]

theorem forall_walk_of_some (hsome : next a = some c) :
    (∀ b, Walk next a b → P b) ↔ P a ∧ ∀ b, Walk next c b → P b := by
  simp only [walk_of_some hsome, forall_eq_or_imp]

theorem exists_walk_of_none (hnone : next a = none) : (∃ b, Walk next a b ∧ P b) ↔ P a := by
  simp only [walk_of_none hnone, exists_eq_left]

theorem exists_walk_of_some (hsome : next a = some c) :
    (∃ b, Walk next a b ∧ P b) ↔ P a ∨ ∃ b, Walk next c b ∧ P b := by
  simp only [walk_of_some hsome, or_and_right, exists_or, exists_eq_left]

/-- Every place on the way to the end of a walk leads to that end. -/
theorem Walk.to_end {z : α} (walk : Walk next a z) (hend : next z = none)
    (other : Walk next a b) : Walk next b z := by
  have unique : Relator.RightUnique fun a b => next a = some b := by
    intro x y w hy hw
    exact Option.some.inj (hy.symm.trans hw)
  rcases Relation.ReflTransGen.total_of_right_unique unique walk other with hback | hforth
  · rw [(walk_of_none hend).mp hback]
    exact walk_refl next z
  · exact hforth

theorem Walk.step (walk : Walk next a b) (hsome : next b = some c) : Walk next a c :=
  Relation.ReflTransGen.tail walk hsome

end OrkAudio.Lib
