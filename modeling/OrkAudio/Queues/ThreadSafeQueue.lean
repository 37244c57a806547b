import OrkAudio.Lib.Steps
import OrkAudio.Lib.Word
import OrkAudio.Queues.OrkSemaphore

/-! `ThreadSafeQueue`: `push` is one step under the mutex, which it holds while it releases
the semaphore; `pop` is two, the acquisition of the semaphore and the section under the
mutex. A label of a run has the result of its step. -/

namespace OrkAudio.Queues

open Lib

structure ThreadSafeQueue (ι α : Type*) where
  size : Int
  queue : List α
  gate : Gate ι

namespace ThreadSafeQueue

variable {ι α : Type*}

def new (size : Int) : ThreadSafeQueue ι α where
  size := size
  queue := []
  gate := .closed

/-- The semaphore is released also when the queue is full. -/
def push (q : ThreadSafeQueue ι α) (element : α) : ThreadSafeQueue ι α × Bool :=
  if q.queue.length < toU32 q.size then
    ({ q with queue := q.queue ++ [element], gate := q.gate.release }, true)
  else
    ({ q with gate := q.gate.release }, false)

def setSize (q : ThreadSafeQueue ι α) (size : Int) : ThreadSafeQueue ι α :=
  { q with size := size }

/-- A step of a thread; `pop` is the second part of it, in which the front element, if there
is one, replaces the default-constructed one that is returned otherwise. -/
inductive Label (ι α : Type*)
  | push (thread : ι) (element : α) (result : Bool)
  | acquire (thread : ι)
  | pop (thread : ι) (front : Option α)
  | setSize (size : Int)

variable [DecidableEq ι]

inductive Step : ThreadSafeQueue ι α → Label ι α → ThreadSafeQueue ι α → Prop
  | push {q : ThreadSafeQueue ι α} {thread : ι} (idle : thread ∉ q.gate.acquired) (element : α) :
      Step q (.push thread element (q.push element).2) (q.push element).1
  | acquire {q : ThreadSafeQueue ι α} {thread : ι} {gate : Gate ι}
      (acquired : q.gate.acquire thread = some gate) :
      Step q (.acquire thread) { q with gate := gate }
  | pop {q : ThreadSafeQueue ι α} {thread : ι} {gate : Gate ι}
      (entered : q.gate.enter thread = some gate) :
      Step q (.pop thread q.queue.head?) { q with queue := q.queue.tail, gate := gate }
  | setSize {q : ThreadSafeQueue ι α} (size : Int) : Step q (.setSize size) (q.setSize size)

/-! ### What the labels of a run say -/

/-- The elements whose push returned true. -/
def accepted (labels : List (Label ι α)) : List α :=
  labels.filterMap fun
    | .push _ element true => some element
    | _ => none

/-- The elements that were taken out of the queue. -/
def taken (labels : List (Label ι α)) : List α :=
  labels.filterMap fun
    | .pop _ front => front
    | _ => none

/-- The elements that `pop` returned. -/
def popped [Inhabited α] (labels : List (Label ι α)) : List α :=
  labels.filterMap fun
    | .pop _ front => some (front.getD default)
    | _ => none

def rejections (labels : List (Label ι α)) : Nat :=
  labels.countP fun
    | .push _ _ false => true
    | _ => false

def emptyPops (labels : List (Label ι α)) : Nat :=
  labels.countP fun
    | .pop _ none => true
    | _ => false

variable {q q' : ThreadSafeQueue ι α} {labels : List (Label ι α)}

/-- In every run what is pushed with success goes through the queue in order. -/
theorem queue_append_accepted (run : Steps Step q labels q') :
    q.queue ++ accepted labels = taken labels ++ q'.queue := by
  induction run with
  | nil => simp [accepted, taken]
  | @cons q _ _ label labels first _ ih =>
      cases first with
      | push idle element =>
          unfold push at ih ⊢
          split_ifs at ih ⊢ <;> simpa [accepted, taken] using ih
      | acquire acquired => simpa [accepted, taken] using ih
      | pop entered =>
          cases hqueue : q.queue with
          | nil => simpa [accepted, taken, hqueue] using ih
          | cons front rest => simpa [accepted, taken, hqueue] using ih
      | setSize size => simpa [accepted, taken, ThreadSafeQueue.setSize] using ih

/-- There is a ticket for every element, and one more for every rejected push whose empty
pop is still to come. -/
theorem tickets_add_emptyPops (run : Steps Step q labels q')
    (enough : q.queue.length ≤ q.gate.tickets) :
    q'.queue.length ≤ q'.gate.tickets ∧
      q'.gate.tickets + emptyPops labels + q.queue.length =
        q'.queue.length + rejections labels + q.gate.tickets := by
  induction run with
  | nil =>
      refine ⟨enough, ?_⟩
      simp only [emptyPops, rejections, List.countP_nil]
      omega
  | @cons q _ _ label labels first _ ih =>
      cases first with
      | push idle element =>
          unfold push at ih ⊢
          split_ifs at ih ⊢ with hroom
          · obtain ⟨hle, heq⟩ := ih (by simpa using enough)
            simp only [emptyPops, rejections, Gate.tickets_release, List.length_append,
              List.length_singleton, List.countP_cons] at heq ⊢
            simp only [Bool.false_eq_true, if_false]
            exact ⟨hle, by omega⟩
          · obtain ⟨hle, heq⟩ := ih (by simpa using Nat.le_succ_of_le enough)
            simp only [emptyPops, rejections, Gate.tickets_release, List.countP_cons] at heq ⊢
            simp only [Bool.false_eq_true, if_false, if_true]
            exact ⟨hle, by omega⟩
      | acquire acquired =>
          have htickets := Gate.tickets_acquire acquired
          obtain ⟨hle, heq⟩ := ih (Nat.le_trans enough (Nat.le_of_eq htickets.symm))
          simp only [htickets] at heq
          simpa [emptyPops, rejections] using ⟨hle, heq⟩
      | pop entered =>
          have htickets := Gate.tickets_enter entered
          cases hqueue : q.queue with
          | nil =>
              obtain ⟨hle, heq⟩ := ih (by simp [hqueue])
              refine ⟨hle, ?_⟩
              simp only [emptyPops, rejections, hqueue, List.tail_nil, List.length_nil,
                List.head?_nil, List.countP_cons] at heq ⊢
              simp only [Bool.false_eq_true, if_false, if_true]
              omega
          | cons front rest =>
              rw [hqueue, List.length_cons] at enough
              obtain ⟨hle, heq⟩ := ih (by simp only [hqueue, List.tail_cons]; omega)
              refine ⟨hle, ?_⟩
              simp only [emptyPops, rejections, hqueue, List.tail_cons, List.length_cons,
                List.head?_cons, List.countP_cons] at heq ⊢
              simp only [Bool.false_eq_true, if_false]
              omega
      | setSize size => simpa [emptyPops, rejections, ThreadSafeQueue.setSize] using ih enough

/-- At most as many pops as pushes were rejected return a default-constructed element. -/
theorem emptyPops_le_rejections {size : Int} (run : Steps Step (new size) labels q) :
    emptyPops labels ≤ rejections labels := by
  obtain ⟨hle, heq⟩ := tickets_add_emptyPops run (Nat.le_refl _)
  simp only [new, List.length_nil, Gate.tickets_closed] at heq
  omega

/-! ### Runs in which no push meets a full queue -/

/-- No push on a full queue. -/
def Room (q : ThreadSafeQueue ι α) : Label ι α → Prop
  | .push _ _ _ => q.queue.length < toU32 q.size
  | _ => True

theorem rejections_eq_zero (run : Steps (Guarded Room Step) q labels q') :
    rejections labels = 0 := by
  induction run with
  | nil => rfl
  | @cons q _ _ label labels first _ ih =>
      obtain ⟨room, step⟩ := first
      cases step with
      | push idle element =>
          have hpush : (q.push element).2 = true := by
            have hroom : q.queue.length < toU32 q.size := room
            rw [ThreadSafeQueue.push, if_pos hroom]
          rw [hpush]
          simpa [rejections] using ih
      | acquire acquired => simpa [rejections] using ih
      | pop entered => simpa [rejections] using ih
      | setSize size => simpa [rejections] using ih

omit [DecidableEq ι] in
theorem popped_eq_taken [Inhabited α] (none_empty : emptyPops labels = 0) :
    popped labels = taken labels := by
  apply List.filterMap_congr
  intro label hlabel
  have hcount := List.countP_eq_zero.mp none_empty label hlabel
  cases label with
  | pop thread front =>
      cases front with
      | none => exact absurd rfl hcount
      | some element => rfl
  | _ => rfl

/-- When no push meets a full queue, the elements that pops return are the accepted ones
from the first on, each once and in order. -/
theorem pops_accepted [Inhabited α] {size : Int}
    (run : Steps (Guarded Room Step) (new size) labels q) :
    accepted labels = popped labels ++ q.queue := by
  have hempty : emptyPops labels = 0 := by
    apply Nat.le_zero.mp
    calc
      emptyPops labels ≤ rejections labels := emptyPops_le_rejections run.of_guarded
      _ = 0 := rejections_eq_zero run
  rw [popped_eq_taken hempty]
  exact queue_append_accepted run.of_guarded

theorem pops_accepted_two_threads :
    accepted (ι := Bool) [.push true 5 true, .acquire false, .push true 6 true,
      .pop false (some 5)] = [5] ++ [6] := by
  let last : ThreadSafeQueue Bool Nat :=
    { size := 2, queue := [6], gate := { semaphore := ⟨1⟩, acquired := [] } }
  have run : Steps (Guarded Room Step) (new 2) [.push true 5 true, .acquire false,
      .push true 6 true, .pop false (some 5)] last := by
    apply Steps.cons ⟨Nat.zero_lt_two, .push (by decide) 5⟩
    apply Steps.cons ⟨trivial, .acquire rfl⟩
    apply Steps.cons ⟨Nat.one_lt_two, .push (by decide) 6⟩
    apply Steps.cons ⟨trivial, .pop rfl⟩
    exact .nil last
  exact pops_accepted run

/-- A push on a full queue of one element makes the second pop return an element that nobody
pushed. -/
theorem pop_after_rejected_push :
    ∃ labels : List (Label Bool Nat), (∃ q, Steps Step (new 1) labels q) ∧
      accepted labels = [5] ∧ popped labels = [5, 0] := by
  let last : ThreadSafeQueue Bool Nat :=
    { size := 1, queue := [], gate := { semaphore := ⟨0⟩, acquired := [] } }
  refine ⟨[.push true 5 true, .push true 6 false, .acquire false, .pop false (some 5),
    .acquire false, .pop false none], ⟨last, ?_⟩, rfl, rfl⟩
  apply Steps.cons (.push (by decide) 5)
  apply Steps.cons (.push (by decide) 6)
  apply Steps.cons (.acquire rfl)
  apply Steps.cons (.pop rfl)
  apply Steps.cons (.acquire rfl)
  apply Steps.cons (.pop rfl)
  exact .nil last

end ThreadSafeQueue

end OrkAudio.Queues
