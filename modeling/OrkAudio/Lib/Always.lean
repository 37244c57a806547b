import OrkAudio.Lib.Steps

/-! What holds at every step of a run.

A run may end before its labels do; the condition is about the states that are reached and
the label that comes next in each. -/

namespace OrkAudio.Lib

variable {σ ι : Type*}

/-- In every state that the labels reach, with the label that is next there. -/
def Always (step : σ → ι → σ → Prop) (property : σ → ι → Prop) (s : σ) (labels : List ι) : Prop :=
  ∀ front label back t, labels = front ++ label :: back → Steps step s front t → property t label

namespace Always

variable {step : σ → ι → σ → Prop} {property other : σ → ι → Prop} {s : σ} {labels : List ι}

/-- What follows at one step from an invariant follows at every step. -/
theorem imp {inv : σ → Prop} (admitted : ι → Prop)
    (preserved : ∀ s label s', admitted label → inv s → step s label s' → inv s')
    (weaker : ∀ t label, admitted label → inv t → property t label → other t label)
    (start : inv s) (hlabels : ∀ label ∈ labels, admitted label)
    (always : Always step property s labels) : Always step other s labels := by
  intro front label back t hsplit run
  have hadmitted : ∀ l ∈ front ++ label :: back, admitted l := by rwa [← hsplit]
  have hfront : ∀ l ∈ front, admitted l := fun l hl => hadmitted l (List.mem_append_left _ hl)
  have hlabel : admitted label := hadmitted label (List.mem_append_right _ List.mem_cons_self)
  have hinv : inv t := run.invariant_of_labels admitted preserved hfront start
  exact weaker t label hlabel hinv (always front label back t hsplit run)

/-- Two conditions that are the same at one step under an invariant are the same of a run. -/
theorem congr {inv : σ → Prop} (admitted : ι → Prop)
    (preserved : ∀ s label s', admitted label → inv s → step s label s' → inv s')
    (same : ∀ t label, admitted label → inv t → (property t label ↔ other t label))
    (start : inv s) (hlabels : ∀ label ∈ labels, admitted label) :
    Always step property s labels ↔ Always step other s labels :=
  ⟨imp admitted preserved (fun t label had hinv => (same t label had hinv).mp) start hlabels,
    imp admitted preserved (fun t label had hinv => (same t label had hinv).mpr) start hlabels⟩

end Always

end OrkAudio.Lib
