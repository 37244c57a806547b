import Mathlib.Data.List.Infix
import Mathlib.Data.List.Basic

/-! The first occurrence of a pattern in a list, and what appending to the list can change. -/

namespace OrkAudio.Lib

variable {α : Type*} [DecidableEq α]

/-- The first place at which the pattern stands. -/
def search (pattern text : List α) : Option Nat :=
  (List.range (text.length + 1)).find? fun place => pattern.isPrefixOf (text.drop place)

variable {pattern text more : List α} {place : Nat}

theorem search_eq_some_iff : search pattern text = some place ↔
    place ≤ text.length ∧ pattern <+: text.drop place ∧
      ∀ before < place, ¬ pattern <+: text.drop before := by
  simp only [search, List.find?_range_eq_some, List.mem_range, List.isPrefixOf_iff_prefix,
    Nat.lt_succ_iff, Bool.not_eq_true', ← Bool.not_eq_true]
  tauto

theorem search_eq_none_iff : search pattern text = none ↔ ¬ pattern <:+: text := by
  rw [search, List.find?_range_eq_none]
  constructor
  · intro hnone hinfix
    obtain ⟨front, back, rfl⟩ := hinfix
    have hhere := hnone front.length (by simp only [List.length_append]; omega)
    rw [List.append_assoc, List.drop_left,
      List.isPrefixOf_iff_prefix.mpr (List.prefix_append pattern back)] at hhere
    exact absurd hhere (by decide)
  · intro hnone place _
    rw [Bool.not_eq_true', ← Bool.not_eq_true, List.isPrefixOf_iff_prefix]
    intro hhere
    exact hnone (hhere.isInfix.trans (List.drop_suffix place text).isInfix)

theorem search_isSome_iff : (search pattern text).isSome ↔ pattern <:+: text := by
  rw [← Option.ne_none_iff_isSome, ne_eq, search_eq_none_iff, not_not]

/-- An occurrence ends inside the list. -/
theorem le_length_of_search (hfound : search pattern text = some place) :
    place + pattern.length ≤ text.length := by
  obtain ⟨hplace, hhere, _⟩ := search_eq_some_iff.mp hfound
  have hlength := hhere.length_le
  rw [List.length_drop] at hlength
  omega

/-- What stands behind the first occurrence does not matter. -/
theorem search_append_of_some (hfound : search pattern text = some place) (more : List α) :
    search pattern (text ++ more) = some place := by
  have hend := le_length_of_search hfound
  obtain ⟨hplace, hhere, hbefore⟩ := search_eq_some_iff.mp hfound
  rw [search_eq_some_iff]
  refine ⟨by rw [List.length_append]; omega, ?_, ?_⟩
  · rw [List.drop_append_of_le_length hplace]
    exact hhere.trans (List.prefix_append _ _)
  · intro before hlt hearlier
    apply hbefore before hlt
    rw [List.drop_append_of_le_length (by omega)] at hearlier
    apply List.prefix_of_prefix_length_le hearlier (List.prefix_append _ _)
    rw [List.length_drop]
    omega

/-- A pattern that only an appended list brings in reaches into it. -/
theorem length_lt_of_search_append (hnone : ¬ pattern <:+: text)
    (hfound : search pattern (text ++ more) = some place) :
    text.length < place + pattern.length := by
  obtain ⟨_, hhere, _⟩ := search_eq_some_iff.mp hfound
  by_contra hinside
  apply hnone
  rw [List.drop_append_of_le_length (by omega)] at hhere
  have hprefix : pattern <+: text.drop place := by
    apply List.prefix_of_prefix_length_le hhere (List.prefix_append _ _)
    rw [List.length_drop]
    omega
  exact hprefix.isInfix.trans (List.drop_suffix place text).isInfix

/-- Behind elements that cannot begin the pattern it is found at once. -/
theorem search_append_fresh {first : α} {rest front : List α}
    (hfresh : ∀ c ∈ front, c ≠ first) (more : List α) :
    search (first :: rest) (front ++ (first :: rest) ++ more) = some front.length := by
  rw [search_eq_some_iff]
  refine ⟨by simp, ?_, ?_⟩
  · rw [List.append_assoc, List.drop_left]
    exact List.prefix_append _ _
  · intro before hlt hearlier
    rw [List.append_assoc, List.drop_append_of_le_length hlt.le,
      List.drop_eq_getElem_cons hlt, List.cons_append, List.cons_prefix_cons] at hearlier
    exact hfresh _ (List.getElem_mem hlt) hearlier.1.symm

/-- The list ends with a beginning of the pattern that `room` more elements can complete. -/
def Completable (pattern text : List α) (room : Nat) : Prop :=
  ∃ known < pattern.length, pattern.take known <:+ text ∧ pattern.length ≤ room + known

/-- A pattern that only an appended list brings in begins in the list before it. -/
theorem overlap_of_search_append (hnone : ¬ pattern <:+: text)
    (hfound : search pattern (text ++ more) = some place) :
    ∃ known < pattern.length, pattern.take known <:+ text ∧
      pattern.length ≤ more.length + known ∧ text.length ≤ place + known := by
  have hreach := length_lt_of_search_append hnone hfound
  have hend := le_length_of_search hfound
  rw [List.length_append] at hend
  rcases Nat.lt_or_ge place text.length with hinside | hbehind
  · refine ⟨text.length - place, by omega, ?_, by omega, by omega⟩
    obtain ⟨_, hhere, _⟩ := search_eq_some_iff.mp hfound
    rw [List.drop_append_of_le_length hinside.le] at hhere
    obtain ⟨back, hback⟩ := hhere
    have htake := congrArg (List.take (text.length - place)) hback
    rw [List.take_append_of_le_length (by omega), List.take_left' (List.length_drop ..)] at htake
    rw [htake]
    exact List.drop_suffix place text
  · have hpattern : pattern ≠ [] := by
      intro hnil
      rw [hnil] at hnone
      exact hnone List.nil_infix
    have hpositive := List.length_pos_of_ne_nil hpattern
    exact ⟨0, hpositive, List.nil_suffix, by omega, by omega⟩

omit [DecidableEq α] in
/-- What is missing completes the pattern. -/
theorem Completable.isInfix {room : Nat} (completable : Completable pattern text room) :
    ∃ missing : List α, missing.length ≤ room ∧ missing <:+ pattern ∧
      pattern <:+: text ++ missing := by
  obtain ⟨known, hknown, hsuffix, hroom⟩ := completable
  obtain ⟨front, rfl⟩ := hsuffix
  refine ⟨pattern.drop known, by rw [List.length_drop]; omega, List.drop_suffix _ _, ?_⟩
  rw [List.append_assoc, List.take_append_drop]
  exact (List.suffix_append front pattern).isInfix

end OrkAudio.Lib
