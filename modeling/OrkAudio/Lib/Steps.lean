import Mathlib.Logic.Basic

/-! Labelled runs of a step relation, and the invariant rules for them.

A run is a list of labels together with the states it starts and ends in.
`Guarded` keeps only the steps whose state and label meet a condition, so that
"every run whose steps all meet the condition" is a run of the guarded relation. -/

namespace OrkAudio.Lib

variable {σ ι : Type*}

/-- `Steps step s labels t`: the labels, taken in order from `s`, lead to `t`. -/
inductive Steps (step : σ → ι → σ → Prop) : σ → List ι → σ → Prop
  | nil (s : σ) : Steps step s [] s
  | cons {s s' t : σ} {label : ι} {labels : List ι} :
      step s label s' → Steps step s' labels t → Steps step s (label :: labels) t

/-- The steps of `step` taken where `cond` holds of the state before and the label. -/
def Guarded (cond : σ → ι → Prop) (step : σ → ι → σ → Prop) : σ → ι → σ → Prop :=
  fun s label s' => cond s label ∧ step s label s'

namespace Steps

variable {step : σ → ι → σ → Prop}

/-- What holds at the start and is kept by every step with an admitted label holds at the
end of every run whose labels are all admitted. -/
theorem invariant_of_labels {inv : σ → Prop} (admitted : ι → Prop)
    (preserved : ∀ s label s', admitted label → inv s → step s label s' → inv s')
    {s t : σ} {labels : List ι} (run : Steps step s labels t)
    (hlabels : ∀ label ∈ labels, admitted label) (start : inv s) : inv t := by
  induction run with
  | nil => exact start
  | cons first _ ih =>
      exact ih (fun label hlabel => hlabels label (List.mem_cons_of_mem _ hlabel))
        (preserved _ _ _ (hlabels _ List.mem_cons_self) start first)

/-- What holds at the start and is kept by every step holds at the end of every run. -/
theorem invariant {inv : σ → Prop}
    (preserved : ∀ s label s', inv s → step s label s' → inv s')
    {s t : σ} {labels : List ι} (run : Steps step s labels t) (start : inv s) : inv t :=
  run.invariant_of_labels (fun _ => True) (fun s label s' _ => preserved s label s') (fun _ _ => trivial) start

theorem append {s t u : σ} {front back : List ι}
    (first : Steps step s front t) (second : Steps step t back u) :
    Steps step s (front ++ back) u := by
  induction first with
  | nil => exact second
  | cons head _ ih => exact .cons head (ih second)

/-- A run over a concatenation passes through a state between the two parts. -/
theorem split {s u : σ} {front back : List ι}
    (run : Steps step s (front ++ back) u) :
    ∃ t, Steps step s front t ∧ Steps step t back u := by
  induction front generalizing s with
  | nil => exact ⟨s, .nil s, run⟩
  | cons label front ih =>
      cases run with
      | cons head rest =>
          obtain ⟨t, first, second⟩ := ih rest
          exact ⟨t, .cons head first, second⟩

theorem singleton_iff {s t : σ} {label : ι} :
    Steps step s [label] t ↔ step s label t := by
  constructor
  · intro run
    cases run with
    | cons head rest => cases rest; exact head
  · intro head
    exact .cons head (.nil t)

/-- Where a step has one outcome, so has a run. -/
theorem functional (unique : ∀ s label t u, step s label t → step s label u → t = u)
    {s t u : σ} {labels : List ι} (first : Steps step s labels t)
    (second : Steps step s labels u) : t = u := by
  induction first with
  | nil => cases second; rfl
  | cons head _ ih =>
      cases second with
      | cons head' rest' =>
          obtain rfl := unique _ _ _ _ head head'
          exact ih rest'

theorem mono {other : σ → ι → σ → Prop}
    (included : ∀ s label s', step s label s' → other s label s')
    {s t : σ} {labels : List ι} (run : Steps step s labels t) : Steps other s labels t := by
  induction run with
  | nil s => exact .nil s
  | cons head _ ih => exact .cons (included _ _ _ head) ih

theorem of_guarded {cond : σ → ι → Prop} {s t : σ} {labels : List ι}
    (run : Steps (Guarded cond step) s labels t) : Steps step s labels t :=
  run.mono fun _ _ _ taken => taken.2

end Steps

end OrkAudio.Lib
