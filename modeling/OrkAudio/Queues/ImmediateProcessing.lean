import Mathlib.Data.List.Nodup
import OrkAudio.Lib.Steps
import OrkAudio.Queues.OrkSemaphore

/-! `ImmediateProcessing`: a queue of tapes in which a tape stands at most once.

`Push` is one step under the mutex, `Pop` is two as in the other queue. Nothing else writes
the flag `m_isQueued` of a tape, which is false when the tape is made. -/

namespace OrkAudio.Queues

open Lib

/-- A reference to a tape, none for NULL. -/
abbrev AudioTapeRef (τ : Type*) := Option τ

structure ImmediateProcessing (ι τ : Type*) where
  audioTapeQueue : List (AudioTapeRef τ)
  isQueued : τ → Bool
  gate : Gate ι

namespace ImmediateProcessing

variable {ι τ : Type*}

def new : ImmediateProcessing ι τ where
  audioTapeQueue := []
  isQueued := fun _ => false
  gate := .closed

section

variable [DecidableEq τ]

def setQueued (isQueued : τ → Bool) (tape : τ) (value : Bool) : τ → Bool :=
  fun other => if other = tape then value else isQueued other

/-- `Push`: the semaphore is released also when the tape is in the queue already, and not
when the reference is NULL. -/
def push (q : ImmediateProcessing ι τ) : AudioTapeRef τ → ImmediateProcessing ι τ
  | none => q
  | some tape =>
      if q.isQueued tape = false then
        { audioTapeQueue := q.audioTapeQueue ++ [some tape]
          isQueued := setQueued q.isQueued tape true
          gate := q.gate.release }
      else { q with gate := q.gate.release }

/-- The section of `Pop` under the mutex. -/
def popFront (q : ImmediateProcessing ι τ) : ImmediateProcessing ι τ × AudioTapeRef τ :=
  match q.audioTapeQueue with
  | [] => (q, none)
  | some tape :: rest =>
      ({ q with audioTapeQueue := rest, isQueued := setQueued q.isQueued tape false }, some tape)
  | none :: rest => ({ q with audioTapeQueue := rest }, none)

theorem popFront_cons {q : ImmediateProcessing ι τ} {front : AudioTapeRef τ}
    {rest : List (AudioTapeRef τ)} (hqueue : q.audioTapeQueue = front :: rest) :
    q.popFront.2 = front ∧ q.popFront.1.audioTapeQueue = rest := by
  cases front <;> simp [popFront, hqueue]

end

/-- A step of a thread; that of the section of `Pop` has the reference that is returned. -/
inductive Label (ι τ : Type*)
  | push (thread : ι) (audioTapeRef : AudioTapeRef τ)
  | acquire (thread : ι)
  | pop (thread : ι) (result : AudioTapeRef τ)

def Label.IsPop : Label ι τ → Prop
  | .push _ _ => False
  | _ => True

variable [DecidableEq ι] [DecidableEq τ]

inductive Step : ImmediateProcessing ι τ → Label ι τ → ImmediateProcessing ι τ → Prop
  | push {q : ImmediateProcessing ι τ} {thread : ι} (idle : thread ∉ q.gate.acquired)
      (audioTapeRef : AudioTapeRef τ) :
      Step q (.push thread audioTapeRef) (q.push audioTapeRef)
  | acquire {q : ImmediateProcessing ι τ} {thread : ι} {gate : Gate ι}
      (acquired : q.gate.acquire thread = some gate) :
      Step q (.acquire thread) { q with gate := gate }
  | pop {q : ImmediateProcessing ι τ} {thread : ι} {gate : Gate ι}
      (entered : q.gate.enter thread = some gate) :
      Step q (.pop thread q.popFront.2) { q.popFront.1 with gate := gate }

/-! ### The flag, the queue and the semaphore -/

structure Balanced (q : ImmediateProcessing ι τ) : Prop where
  queued : ∀ tape, q.isQueued tape = true ↔ some tape ∈ q.audioTapeQueue
  nodup : q.audioTapeQueue.Nodup
  nonNull : none ∉ q.audioTapeQueue
  enough : q.audioTapeQueue.length ≤ q.gate.tickets

variable {q q' : ImmediateProcessing ι τ} {label : Label ι τ} {labels : List (Label ι τ)}

omit [DecidableEq ι] [DecidableEq τ] in
theorem balanced_new : (new : ImmediateProcessing ι τ).Balanced where
  queued := by simp [new]
  nodup := List.nodup_nil
  nonNull := by simp [new]
  enough := Nat.zero_le _

namespace Balanced

omit [DecidableEq ι] in
theorem push (balanced : q.Balanced) (audioTapeRef : AudioTapeRef τ) :
    (q.push audioTapeRef).Balanced := by
  cases audioTapeRef with
  | none => exact balanced
  | some tape =>
      simp only [ImmediateProcessing.push]
      split_ifs with hflag
      · have habsent : some tape ∉ q.audioTapeQueue := by
          rw [← balanced.queued, hflag]
          exact Bool.false_ne_true
        exact {
          queued := by
            intro other
            by_cases hsame : other = tape
            · simp [setQueued, hsame]
            · simp [setQueued, hsame, balanced.queued other]
          nodup := by
            rw [List.nodup_append]
            refine ⟨balanced.nodup, List.nodup_singleton _, ?_⟩
            intro other hother last hlast heq
            rw [List.mem_singleton.mp hlast] at heq
            exact habsent (heq ▸ hother)
          nonNull := by simpa using balanced.nonNull
          enough := by simpa using balanced.enough }
      · exact { balanced with
          enough := by simpa using Nat.le_succ_of_le balanced.enough }

omit [DecidableEq τ] in
theorem acquire (balanced : q.Balanced) {thread : ι} {gate : Gate ι}
    (acquired : q.gate.acquire thread = some gate) : { q with gate := gate }.Balanced :=
  { balanced with
    enough := Nat.le_trans balanced.enough (Nat.le_of_eq (Gate.tickets_acquire acquired).symm) }

theorem pop (balanced : q.Balanced) {thread : ι} {gate : Gate ι}
    (entered : q.gate.enter thread = some gate) : { q.popFront.1 with gate := gate }.Balanced := by
  have htickets := Gate.tickets_enter entered
  obtain ⟨queued, nodup, nonNull, enough⟩ := balanced
  unfold popFront
  split
  · rename_i hqueue
    exact ⟨queued, nodup, nonNull, by simp [hqueue]⟩
  · rename_i tape rest hqueue
    rw [hqueue] at queued nodup nonNull enough
    rw [List.nodup_cons] at nodup
    exact {
      queued := by
        intro other
        by_cases hsame : other = tape
        · simp [setQueued, hsame, nodup.1]
        · simp [setQueued, hsame, queued other]
      nodup := nodup.2
      nonNull := fun hmem => nonNull (List.mem_cons_of_mem _ hmem)
      enough := by
        rw [List.length_cons] at enough
        show rest.length ≤ gate.tickets
        omega }
  · rename_i rest hqueue
    exact absurd (by simp [hqueue]) nonNull

theorem step (balanced : q.Balanced) (taken : Step q label q') : q'.Balanced := by
  cases taken with
  | push idle audioTapeRef => exact balanced.push audioTapeRef
  | acquire acquired => exact balanced.acquire acquired
  | pop entered => exact balanced.pop entered

theorem steps (balanced : q.Balanced) (run : Steps Step q labels q') : q'.Balanced :=
  run.invariant (fun _ _ _ before taken => before.step taken) balanced

end Balanced

/-! ### A queued tape is returned -/

/-- Only the pop that returns a tape takes it out of the queue. -/
theorem mem_step {tape : τ} (hmem : some tape ∈ q.audioTapeQueue)
    (taken : Step q label q') (kept : ∀ thread, label ≠ .pop thread (some tape)) :
    some tape ∈ q'.audioTapeQueue := by
  cases taken with
  | push idle audioTapeRef =>
      unfold push
      split
      · exact hmem
      · split_ifs
        · exact List.mem_append_left _ hmem
        · exact hmem
  | acquire acquired => exact hmem
  | @pop thread gate entered =>
      have hkept := kept thread
      cases hqueue : q.audioTapeQueue with
      | nil => simp [hqueue] at hmem
      | cons front rest =>
          obtain ⟨hfront, hrest⟩ := popFront_cons hqueue
          rw [hqueue] at hmem
          rw [hfront] at hkept
          rw [hrest]
          rcases List.mem_cons.mp hmem with heq | hmem
          · exact absurd (congrArg _ heq.symm) hkept
          · exact hmem

theorem mem_steps {tape : τ} (hmem : some tape ∈ q.audioTapeQueue)
    (run : Steps Step q labels q') (kept : ∀ thread, .pop thread (some tape) ∉ labels) :
    some tape ∈ q'.audioTapeQueue := by
  induction run with
  | nil => exact hmem
  | cons first _ ih =>
      apply ih
      · apply mem_step hmem first
        intro thread heq
        exact kept thread (heq ▸ List.mem_cons_self)
      · intro thread hlater
        exact kept thread (List.mem_cons_of_mem _ hlater)

/-- While the queue is not empty, a consumer can complete a pop, which returns the tape in
front. -/
theorem exists_pop {front : AudioTapeRef τ} {rest : List (AudioTapeRef τ)} (balanced : q.Balanced)
    (hqueue : q.audioTapeQueue = front :: rest) (thread : ι) :
    ∃ pops consumer q', (∀ label ∈ pops, label.IsPop) ∧
      Steps Step q (pops ++ [.pop consumer front]) q' ∧ q'.audioTapeQueue = rest := by
  have hpos : 0 < q.gate.tickets := by
    have henough := balanced.enough
    rw [hqueue, List.length_cons] at henough
    omega
  rcases q.gate.exists_enter hpos thread with
    ⟨other, gate, entered⟩ | ⟨gate, gate', acquired, entered⟩
  · obtain ⟨hfront, hrest⟩ := popFront_cons hqueue
    have hpop := Step.pop entered
    rw [hfront] at hpop
    exact ⟨[], other, _, by simp, Steps.singleton_iff.mpr hpop, hrest⟩
  · let q₁ := { q with gate := gate }
    obtain ⟨hfront, hrest⟩ := popFront_cons (q := q₁) hqueue
    have hpop := Step.pop (q := q₁) entered
    rw [hfront] at hpop
    refine ⟨[.acquire thread], thread, _, ?_,
      .cons (.acquire acquired) (.cons hpop (.nil _)), hrest⟩
    intro label hlabel
    rw [List.mem_singleton.mp hlabel]
    trivial

/-- Pops can be completed one after the other until the tape is returned. -/
theorem exists_return {tape : τ} (balanced : q.Balanced) (hmem : some tape ∈ q.audioTapeQueue)
    (thread : ι) :
    ∃ pops consumer q', (∀ label ∈ pops, label.IsPop) ∧
      Steps Step q (pops ++ [.pop consumer (some tape)]) q' := by
  induction hqueue : q.audioTapeQueue generalizing q with
  | nil => simp [hqueue] at hmem
  | cons front rest ih =>
      obtain ⟨pops, consumer, q₁, hpops, run, hrest⟩ := exists_pop balanced hqueue thread
      by_cases hfront : front = some tape
      · exact ⟨pops, consumer, q₁, hpops, hfront ▸ run⟩
      · have hmem₁ : some tape ∈ q₁.audioTapeQueue := by
          rw [hqueue] at hmem
          rw [hrest]
          exact (List.mem_cons.mp hmem).resolve_left (Ne.symm hfront)
        obtain ⟨later, last, q₂, hlater, run₁⟩ := ih (balanced.steps run) hmem₁ hrest
        refine ⟨pops ++ [.pop consumer front] ++ later, last, q₂, ?_, ?_⟩
        · intro label hlabel
          simp only [List.mem_append, List.mem_singleton] at hlabel
          rcases hlabel with (hlabel | rfl) | hlabel
          · exact hpops label hlabel
          · trivial
          · exact hlater label hlabel
        · rw [List.append_assoc]
          exact run.append run₁

omit [DecidableEq ι] in
theorem mem_push (balanced : q.Balanced) (tape : τ) :
    some tape ∈ (q.push (some tape)).audioTapeQueue := by
  simp only [push]
  split_ifs with hflag
  · exact List.mem_append_right _ (List.mem_singleton_self _)
  · exact (balanced.queued tape).mp (by simpa using hflag)

/-- In every state of every run the flags are those of the tapes in the queue, a tape is
there once, and the permits suffice; a tape that is pushed then stays until a pop returns
it, and such a pop can always be reached. -/
theorem never_forgets (run : Steps Step new labels q) :
    (∀ tape, q.isQueued tape = true ↔ some tape ∈ q.audioTapeQueue) ∧
      (∀ audioTapeRef ∈ q.audioTapeQueue, q.audioTapeQueue.count audioTapeRef = 1) ∧
      q.audioTapeQueue.length ≤ q.gate.semaphore.count + q.gate.acquired.length ∧
      ∀ thread tape q₁, Step q (.push thread (some tape)) q₁ →
        ∀ later q₂, Steps Step q₁ later q₂ →
          (∀ consumer, .pop consumer (some tape) ∉ later) →
          ∃ pops consumer q₃, (∀ label ∈ pops, label.IsPop) ∧
            Steps Step q₂ (pops ++ [.pop consumer (some tape)]) q₃ := by
  have balanced := balanced_new.steps run
  refine ⟨balanced.queued, ?_, balanced.enough, ?_⟩
  · intro audioTapeRef hmem
    exact List.count_eq_one_of_mem balanced.nodup hmem
  · intro thread tape q₁ pushed later q₂ run₁ kept
    have balanced₁ := balanced.step pushed
    have hmem : some tape ∈ q₁.audioTapeQueue := by
      cases pushed with
      | push idle => exact mem_push balanced tape
    exact exists_return (balanced₁.steps run₁) (mem_steps hmem run₁ kept) thread

theorem never_forgets_pushed_twice :
    let q : ImmediateProcessing Bool Nat := new.push (some 7)
    ∃ pops consumer q₃, (∀ label ∈ pops, label.IsPop) ∧
      Steps Step (q.push (some 7)) (pops ++ [.pop consumer (some 7)]) q₃ := by
  intro q
  have run : Steps Step new [.push true (some 7)] q := .cons (.push (by decide) _) (.nil _)
  obtain ⟨-, -, -, returned⟩ := never_forgets run
  exact returned true 7 _ (.push (by decide) _) [] _ (.nil _) (by simp)

end ImmediateProcessing

end OrkAudio.Queues
