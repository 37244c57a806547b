import Mathlib.Data.List.Basic

/-! Functions of a list that read only its first elements. -/

namespace OrkAudio.Lib

variable {α β γ : Type*}

/-- What stands behind the first `size` elements does not matter to `f`. -/
def ReadsWithin (size : Nat) (f : List α → β) : Prop :=
  ∀ xs ys, size ≤ xs.length → f (xs ++ ys) = f xs

namespace ReadsWithin

variable {size : Nat} {f : List α → β}

theorem const (b : β) : ReadsWithin size fun _ : List α => b := fun _ _ _ => rfl

theorem comp (within : ReadsWithin size f) (g : β → γ) : ReadsWithin size fun xs => g (f xs) :=
  fun xs ys hsize => congrArg g (within xs ys hsize)

theorem comp₂ {δ : Type*} {g : List α → γ} (left : ReadsWithin size f)
    (right : ReadsWithin size g) (op : β → γ → δ) : ReadsWithin size fun xs => op (f xs) (g xs) :=
  fun xs ys hsize => congrArg₂ op (left xs ys hsize) (right xs ys hsize)

/-- A slice up to `size`. -/
theorem slice {offset count : Nat} (hcount : offset + count ≤ size) :
    ReadsWithin size fun xs : List α => (xs.drop offset).take count := by
  intro xs ys hsize
  have hdrop : offset ≤ xs.length := by omega
  have htake : count ≤ (xs.drop offset).length := by
    rw [List.length_drop]
    omega
  change ((xs ++ ys).drop offset).take count = (xs.drop offset).take count
  rw [List.drop_append_of_le_length hdrop, List.take_append_of_le_length htake]

end ReadsWithin

end OrkAudio.Lib
