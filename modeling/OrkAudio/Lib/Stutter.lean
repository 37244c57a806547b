import Mathlib.Data.List.Destutter
import Mathlib.Data.List.Nodup

/-! Lists read without the copies of an entry that follow it directly. -/

namespace OrkAudio.Lib

variable {α : Type}

/-- The copies of every entry stand together. -/
def Gathered (l : List α) : Prop := ∀ a b, [a, b, a].Sublist l → b = a

theorem gathered_cons_self {a : α} {l : List α} : Gathered (a :: a :: l) ↔ Gathered (a :: l) := by
  constructor
  · intro h x y hsub
    exact h x y (hsub.cons a)
  · intro h x y hsub
    rcases List.cons_sublist_cons'.mp hsub with htail | ⟨heq, htail⟩
    · exact h x y htail
    · rw [heq] at htail ⊢
      rcases List.cons_sublist_cons'.mp htail with hrest | ⟨hsame, -⟩
      · exact h a y (hrest.cons_cons a)
      · exact hsame

theorem gathered_cons_of_ne {a b : α} {l : List α} (hne : b ≠ a) :
    Gathered (a :: b :: l) ↔ a ∉ b :: l ∧ Gathered (b :: l) := by
  constructor
  · intro h
    refine ⟨fun hmem => ?_, fun x y hsub => h x y (hsub.cons a)⟩
    rcases List.mem_cons.mp hmem with heq | hrest
    · exact hne heq.symm
    · have hpair : [b, a].Sublist (b :: l) := (List.singleton_sublist.mpr hrest).cons_cons b
      exact hne (h a b (hpair.cons_cons a))
  · rintro ⟨hfresh, h⟩ x y hsub
    rcases List.cons_sublist_cons'.mp hsub with htail | ⟨heq, htail⟩
    · exact h x y htail
    · have hmem : x ∈ b :: l := htail.subset (List.mem_cons_of_mem y List.mem_cons_self)
      rw [heq] at hmem
      exact absurd hmem hfresh

variable [DecidableEq α]

theorem mem_destutter'_iff {a b : α} {l : List α} :
    b ∈ l.destutter' (· ≠ ·) a ↔ b ∈ a :: l := by
  induction l generalizing a with
  | nil => rw [List.destutter'_nil]
  | cons c l ih =>
      by_cases heq : c = a
      · rw [List.destutter'_cons_neg l (not_not_intro heq.symm), ih, heq]
        simp
      · rw [List.destutter'_cons_pos l (Ne.symm heq), List.mem_cons, ih, ← List.mem_cons]

theorem mem_destutter_iff {b : α} {l : List α} : b ∈ l.destutter (· ≠ ·) ↔ b ∈ l := by
  cases l with
  | nil => rw [List.destutter_nil]
  | cons a l => exact mem_destutter'_iff

theorem nodup_destutter'_iff {a : α} {l : List α} :
    (l.destutter' (· ≠ ·) a).Nodup ↔ Gathered (a :: l) := by
  induction l generalizing a with
  | nil =>
      rw [List.destutter'_nil]
      refine ⟨fun _ x y hsub => ?_, fun _ => List.nodup_singleton a⟩
      exact absurd hsub.length_le (by simp)
  | cons b l ih =>
      by_cases heq : b = a
      · rw [List.destutter'_cons_neg l (not_not_intro heq.symm), ih, heq, gathered_cons_self]
      · rw [List.destutter'_cons_pos l (Ne.symm heq), List.nodup_cons, mem_destutter'_iff, ih,
          gathered_cons_of_ne heq]

theorem nodup_destutter_iff {l : List α} : (l.destutter (· ≠ ·)).Nodup ↔ Gathered l := by
  cases l with
  | nil =>
      refine ⟨fun _ x y hsub => ?_, fun _ => List.nodup_nil⟩
      exact absurd hsub.length_le (by simp)
  | cons a l => exact nodup_destutter'_iff

/-- Behind an entry its own copies do not count. -/
theorem destutter_cons {a : α} {l : List α} :
    (a :: l).destutter (· ≠ ·) = a :: (l.dropWhile (· = a)).destutter (· ≠ ·) := by
  induction l with
  | nil => rfl
  | cons b l ih =>
      by_cases heq : b = a
      · rw [List.dropWhile_cons_of_pos (by simpa using heq), ← ih, heq]
        exact List.destutter'_cons_neg l (not_not_intro rfl)
      · rw [List.dropWhile_cons_of_neg (by simpa using heq)]
        exact List.destutter'_cons_pos l (Ne.symm heq)

/-- Every entry is left once when its copies stand together. -/
theorem count_destutter_iff {l : List α} {entries : List α} (hsub : ∀ a ∈ l, a ∈ entries) :
    (∀ a ∈ entries, (l.destutter (· ≠ ·)).count a = 1) ↔
      (∀ a ∈ entries, a ∈ l) ∧ Gathered l := by
  constructor
  · intro hone
    have hmem : ∀ a ∈ entries, a ∈ l := by
      intro a ha
      apply mem_destutter_iff.mp
      apply List.count_pos_iff.mp
      rw [hone a ha]
      exact Nat.one_pos
    refine ⟨hmem, nodup_destutter_iff.mp (List.nodup_iff_count_le_one.mpr fun a => ?_)⟩
    by_cases ha : a ∈ l
    · exact Nat.le_of_eq (hone a (hsub a ha))
    · rw [List.count_eq_zero_of_not_mem fun h => ha (mem_destutter_iff.mp h)]
      exact Nat.zero_le 1
  · rintro ⟨hmem, hgathered⟩ a ha
    apply List.count_eq_one_of_mem (nodup_destutter_iff.mpr hgathered)
    exact mem_destutter_iff.mpr (hmem a ha)

end OrkAudio.Lib
