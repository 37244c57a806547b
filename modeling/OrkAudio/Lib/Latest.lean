import Mathlib.Data.List.Basic
import Mathlib.Tactic.Common

/-! The latest element of a list, by a loop that takes over each one that is not older than the
time it has come to. -/

namespace OrkAudio.Lib

variable {α : Type*}

/-- An element with the property that none before it is later than, and those behind it are all
older. -/
structure LastLatest (time : α → Int) (p : α → Prop) (xs : List α) (x : α) : Prop where
  holds : p x
  splits : ∃ front back, xs = front ++ x :: back ∧ (∀ y ∈ front, p y → time y ≤ time x) ∧
    ∀ y ∈ back, p y → time y < time x

section

variable {time : α → Int} {p : α → Prop} {xs : List α} {x y : α}

theorem LastLatest.mem (last : LastLatest time p xs x) : x ∈ xs := by
  obtain ⟨front, back, rfl, -, -⟩ := last.splits
  exact List.mem_append_right _ List.mem_cons_self

theorem LastLatest.le (last : LastLatest time p xs x) (hy : y ∈ xs) (hp : p y) :
    time y ≤ time x := by
  obtain ⟨front, back, rfl, hfront, hback⟩ := last.splits
  rcases List.mem_append.mp hy with hy | hy
  · exact hfront y hy hp
  · rcases List.mem_cons.mp hy with rfl | hy
    · exact Int.le_refl _
    · exact Int.le_of_lt (hback y hy hp)

/-- One more element at the front, which is not later. -/
theorem LastLatest.cons (last : LastLatest time p xs x) (hle : p y → time y ≤ time x) :
    LastLatest time p (y :: xs) x := by
  obtain ⟨front, back, rfl, hfront, hback⟩ := last.splits
  refine ⟨last.holds, y :: front, back, rfl, ?_, hback⟩
  intro z hz hp
  rcases List.mem_cons.mp hz with rfl | hz
  · exact hle hp
  · exact hfront z hz hp

/-- It is the last one of its time. -/
theorem LastLatest.getLast? [DecidablePred p] (last : LastLatest time p xs x) :
    (xs.filter fun y => decide (p y ∧ time y = time x)).getLast? = some x := by
  obtain ⟨front, back, rfl, hfront, hback⟩ := last.splits
  have hnone : back.filter (fun y => decide (p y ∧ time y = time x)) = [] := by
    rw [List.filter_eq_nil_iff]
    intro y hy hsame
    rw [decide_eq_true_eq] at hsame
    have hlt := hback y hy hsame.1
    omega
  have hhere : (decide (p x ∧ time x = time x)) = true := decide_eq_true ⟨last.holds, rfl⟩
  rw [List.filter_append, List.filter_cons, if_pos hhere, hnone, List.getLast?_concat]

end

section

variable (time : α → Int) (p : α → Prop) [DecidablePred p]

def takeLater (found : Int × Option α) (x : α) : Int × Option α :=
  if time x ≥ found.1 ∧ p x then (time x, some x) else found

variable {time p}

/-- The loop keeps what it started with when all elements are older than its time, and comes to
the last one of the latest otherwise. -/
theorem foldl_takeLater (xs : List α) (start : Int) (found : Option α) :
    ((∀ x ∈ xs, p x → time x < start) ∧
      xs.foldl (takeLater time p) (start, found) = (start, found)) ∨
    ∃ x, LastLatest time p xs x ∧ start ≤ time x ∧
      xs.foldl (takeLater time p) (start, found) = (time x, some x) := by
  induction xs generalizing start found with
  | nil =>
      apply Or.inl
      refine ⟨?_, rfl⟩
      intro x hx
      cases hx
  | cons x xs ih =>
      rw [List.foldl_cons]
      by_cases htakes : time x ≥ start ∧ p x
      · have hstep : takeLater time p (start, found) x = (time x, some x) := if_pos htakes
        rw [hstep]
        rcases ih (time x) (some x) with ⟨holder, hkept⟩ | ⟨y, last, hle, hfound⟩
        · exact Or.inr ⟨x, ⟨htakes.2, [], xs, rfl, by simp, holder⟩, htakes.1, hkept⟩
        · exact Or.inr ⟨y, last.cons fun _ => hle, Int.le_trans htakes.1 hle, hfound⟩
      · have hstep : takeLater time p (start, found) x = (start, found) := if_neg htakes
        have holder : p x → time x < start := by
          intro hp
          by_contra hnot
          exact htakes ⟨Int.not_lt.mp hnot, hp⟩
        rw [hstep]
        rcases ih start found with ⟨hall, hkept⟩ | ⟨y, last, hle, hfound⟩
        · apply Or.inl
          refine ⟨?_, hkept⟩
          intro z hz hp
          rcases List.mem_cons.mp hz with rfl | hz
          · exact holder hp
          · exact hall z hz hp
        · have hlater : p x → time x ≤ time y := fun hp =>
            Int.le_trans (Int.le_of_lt (holder hp)) hle
          exact Or.inr ⟨y, last.cons hlater, hle, hfound⟩

end

end OrkAudio.Lib
