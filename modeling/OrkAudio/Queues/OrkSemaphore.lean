import Mathlib.Data.List.Basic

/-! `OrkSemaphore` in front of a critical section.

The consumers of both queues acquire the semaphore and then enter the section, so that a
consumer can stand between the two. A `Gate` is the semaphore with these consumers. -/

namespace OrkAudio.Queues

structure OrkSemaphore where
  count : Nat

namespace OrkSemaphore

def new : OrkSemaphore where
  count := 1

def release (s : OrkSemaphore) : OrkSemaphore where
  count := s.count + 1

/-- None when the calling thread has to wait. -/
def acquire (s : OrkSemaphore) : Option OrkSemaphore :=
  if 0 < s.count then some { count := s.count - 1 } else none

end OrkSemaphore

structure Gate (ι : Type*) where
  semaphore : OrkSemaphore
  acquired : List ι

namespace Gate

variable {ι : Type*}

/-- The constructor of a queue acquires its semaphore once. -/
def closed : Gate ι where
  semaphore := OrkSemaphore.new.acquire.getD OrkSemaphore.new
  acquired := []

def release (g : Gate ι) : Gate ι := { g with semaphore := g.semaphore.release }

/-- How many consumers can enter before the next release. -/
def tickets (g : Gate ι) : Nat := g.semaphore.count + g.acquired.length

@[simp] theorem tickets_closed : (closed : Gate ι).tickets = 0 := rfl

@[simp] theorem tickets_release (g : Gate ι) : g.release.tickets = g.tickets + 1 := by
  simp only [tickets, release, OrkSemaphore.release]
  omega

variable [DecidableEq ι]

def acquire (g : Gate ι) (thread : ι) : Option (Gate ι) :=
  if thread ∈ g.acquired then none
  else g.semaphore.acquire.map fun s => { semaphore := s, acquired := thread :: g.acquired }

/-- A consumer that has acquired the semaphore goes through the critical section. -/
def enter (g : Gate ι) (thread : ι) : Option (Gate ι) :=
  if thread ∈ g.acquired then some { g with acquired := g.acquired.erase thread } else none

variable {g g' : Gate ι} {thread : ι}

theorem tickets_acquire (h : g.acquire thread = some g') : g'.tickets = g.tickets := by
  unfold acquire at h
  split_ifs at h
  obtain ⟨s, hs, rfl⟩ := Option.map_eq_some_iff.mp h
  unfold OrkSemaphore.acquire at hs
  split_ifs at hs with hpos
  obtain rfl := Option.some.inj hs
  simp only [tickets, List.length_cons]
  omega

theorem tickets_enter (h : g.enter thread = some g') : g.tickets = g'.tickets + 1 := by
  unfold enter at h
  split_ifs at h with hmem
  obtain rfl := Option.some.inj h
  have hpos := List.length_pos_of_mem hmem
  simp only [tickets, List.length_erase_of_mem hmem]
  omega

/-- While there are tickets, a consumer can enter at once or the given thread can acquire
the semaphore and then enter. -/
theorem exists_enter (h : 0 < g.tickets) (thread : ι) :
    (∃ other g', g.enter other = some g') ∨
      ∃ g' g'', g.acquire thread = some g' ∧ g'.enter thread = some g'' := by
  cases hacquired : g.acquired with
  | nil =>
      right
      have hcount : 0 < g.semaphore.count := by simpa [tickets, hacquired] using h
      exact ⟨_, _, by simp [acquire, OrkSemaphore.acquire, hacquired, hcount]; rfl,
        by simp [enter]; rfl⟩
  | cons other rest =>
      left
      exact ⟨other, _, by simp [enter, hacquired]; rfl⟩

end Gate

end OrkAudio.Queues
