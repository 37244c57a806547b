import Mathlib.Data.List.Basic

/-! Texts line by line. -/

namespace OrkAudio.Lib

variable {α : Type} {isEnd : α → Bool}

/-- A text is one line without an end, or a line with its end and a further text. -/
theorem lines_induction {motive : List α → Prop}
    (last : ∀ line : List α, (∀ c ∈ line, isEnd c = false) → motive line)
    (step : ∀ (line : List α) (c : α) (rest : List α), (∀ d ∈ line, isEnd d = false) →
      isEnd c = true → motive rest → motive (line ++ c :: rest)) (text : List α) : motive text := by
  have hall : ∀ (line rest : List α), (∀ c ∈ line, isEnd c = false) → motive (line ++ rest) := by
    intro line rest
    induction rest generalizing line with
    | nil =>
        intro hfree
        rw [List.append_nil]
        exact last line hfree
    | cons c rest ih =>
        intro hfree
        cases hend : isEnd c with
        | true => exact step line c rest hfree hend (ih [] (by simp))
        | false =>
            rw [← List.singleton_append, ← List.append_assoc]
            apply ih
            intro d hd
            rcases List.mem_append.mp hd with hbefore | hlast
            · exact hfree d hbefore
            · rw [List.mem_singleton.mp hlast]
              exact hend
  exact hall [] text (by simp)

theorem splitOnP_line {line : List α} (hfree : ∀ c ∈ line, isEnd c = false) :
    line.splitOnP isEnd = [line] := List.splitOnP_eq_singleton hfree

theorem splitOnP_line_cons {line : List α} (hfree : ∀ c ∈ line, isEnd c = false) {c : α}
    (hend : isEnd c = true) (rest : List α) :
    (line ++ c :: rest).splitOnP isEnd = line :: rest.splitOnP isEnd :=
  List.splitOnP_append_cons_of_forall_mem hfree c hend rest

theorem takeWhile_line {line : List α} (hfree : ∀ c ∈ line, isEnd c = false) {rest : List α}
    (hrest : ∀ c ∈ rest.head?, isEnd c = true) :
    (line ++ rest).takeWhile (fun c => !isEnd c) = line := by
  rw [List.takeWhile_append_of_pos (by simpa using hfree)]
  cases rest with
  | nil => simp
  | cons c rest =>
      rw [List.takeWhile_cons_of_neg (by simpa using hrest c rfl), List.append_nil]

/-- The texts from the beginnings of the further lines on. -/
def nextLines (isEnd : α → Bool) : List α → List (List α)
  | [] => []
  | c :: text => if isEnd c then text :: nextLines isEnd text else nextLines isEnd text

/-- The texts from the beginnings of all lines on. -/
def lineStarts (isEnd : α → Bool) (text : List α) : List (List α) := text :: nextLines isEnd text

end OrkAudio.Lib
