import OrkAudio.Lib.Fallible
import OrkAudio.Lib.Fifo

/-! `RingBuffer`: a queue of a fixed number of cells.

Head and tail are equal both in an empty and in a full buffer; a flag tells these apart. -/

namespace OrkAudio.LiveStream

open Lib

inductive Fault
  /-- A cell or a byte that is not of its buffer is read or written. -/
  | outside
  | divisionByZero
  /-- A null reference or pointer is followed. -/
  | null
  /-- An exception is thrown. -/
  | thrown
  deriving DecidableEq

/-- `buf` are the cells of `buf_`, of which there are `maxSize`. -/
structure RingBuffer (α : Type) where
  buf : Nat → α
  maxSize : Nat
  head : Nat := 0
  tail : Nat := 0
  full : Bool := false

namespace RingBuffer

variable {α : Type}

section

variable (ring : RingBuffer α)

def read (cell : Nat) : Except Fault α :=
  if cell < ring.maxSize then .ok (ring.buf cell) else .error .outside

def write (cell : Nat) (item : α) : Except Fault (Nat → α) :=
  if cell < ring.maxSize then .ok (Function.update ring.buf cell item) else .error .outside

/-- `(cell + 1) % max_size_`. -/
def advance (cell : Nat) : Except Fault Nat :=
  if ring.maxSize = 0 then .error .divisionByZero else .ok ((cell + 1) % ring.maxSize)

/-- What `put` returns, and where the tail is after it. -/
def oldest : Except Fault (Option α) :=
  if ring.full then (ring.read ring.tail).map some else .ok none

def tailAfter : Except Fault Nat := if ring.full then ring.advance ring.tail else .ok ring.tail

def put (item : α) : Except Fault (Option α × RingBuffer α) :=
  ring.oldest >>= fun old => ring.write ring.head item >>= fun buf =>
    ring.tailAfter >>= fun tail => ring.advance ring.head >>= fun head =>
      .ok (old, { ring with buf := buf, head := head, tail := tail, full := decide (head = tail) })

def empty : Bool := !ring.full && decide (ring.head = ring.tail)

def get : Except Fault (Option α × RingBuffer α) :=
  if ring.empty then .ok (none, ring)
  else
    ring.read ring.tail >>= fun val => ring.advance ring.tail >>= fun tail =>
      .ok (some val, { ring with full := false, tail := tail })

def size : Nat :=
  if ring.full then ring.maxSize
  else if ring.tail ≤ ring.head then ring.head - ring.tail
  else ring.maxSize + ring.head - ring.tail

end

theorem read_eq (ring : RingBuffer α) {cell : Nat} (hcell : cell < ring.maxSize) :
    ring.read cell = .ok (ring.buf cell) := if_pos hcell

theorem advance_eq (ring : RingBuffer α) {cell : Nat} (hcell : cell < ring.maxSize) :
    ring.advance cell = .ok (Ring.next ring.maxSize cell) := by
  rw [advance, if_neg (by omega), Ring.mod_eq_next hcell]

/-- The buffer holds this queue, the oldest element at its tail. -/
structure Holds (ring : RingBuffer α) (queue : List α) : Prop where
  tail_lt : ring.tail < ring.maxSize
  length_le : queue.length ≤ ring.maxSize
  head_eq : ring.head = Ring.slot ring.maxSize ring.tail queue.length
  full_eq : ring.full = decide (queue.length = ring.maxSize)
  window : Ring.window ring.maxSize ring.buf ring.tail queue.length = queue

namespace Holds

variable {ring : RingBuffer α} {queue : List α}

theorem new (buf : Nat → α) {maxSize : Nat} (hsize : 0 < maxSize) :
    Holds { buf := buf, maxSize := maxSize } [] where
  tail_lt := hsize
  length_le := Nat.zero_le _
  head_eq := (Ring.slot_zero hsize).symm
  full_eq := (decide_eq_false (Nat.ne_of_lt hsize)).symm
  window := rfl

section

variable (holds : Holds ring queue)
include holds

theorem head_lt : ring.head < ring.maxSize := by
  rw [holds.head_eq]
  exact Ring.slot_lt holds.tail_lt holds.length_le

theorem write_eq (item : α) :
    ring.write ring.head item = .ok (Function.update ring.buf ring.head item) :=
  if_pos holds.head_lt

theorem size_eq : ring.size = queue.length := by
  have hlength := holds.length_le
  have htail := holds.tail_lt
  have hhead := holds.head_eq
  unfold size
  rw [holds.full_eq]
  unfold Ring.slot at hhead
  by_cases hfull : queue.length = ring.maxSize
  · rw [decide_eq_true hfull, if_pos rfl, hfull]
  · rw [decide_eq_false hfull, if_neg Bool.false_ne_true]
    split_ifs at hhead ⊢ <;> omega

theorem empty_iff : ring.empty = true ↔ queue = [] := by
  rw [empty, holds.full_eq, Bool.and_eq_true, Bool.not_eq_true', decide_eq_false_iff_not,
    decide_eq_true_eq, holds.head_eq]
  have htail := holds.tail_lt
  have hlength := holds.length_le
  constructor
  · rintro ⟨hroom, hsame⟩
    apply List.eq_nil_of_length_eq_zero
    unfold Ring.slot at hsame
    split_ifs at hsame <;> omega
  · rintro rfl
    rw [List.length_nil]
    exact ⟨by omega, Ring.slot_zero htail⟩

/-- The oldest element is in the cell at the tail. -/
theorem buf_tail_eq (hsome : 0 < queue.length) :
    queue.head? = some (ring.buf ring.tail) := by
  have hlength := holds.length_le
  have hfirst := Ring.window_cons ring.buf holds.tail_lt
    (Nat.lt_of_lt_of_le (Nat.sub_lt hsome Nat.one_pos) hlength)
  rw [Nat.sub_add_cancel hsome, holds.window] at hfirst
  rw [hfirst, List.head?_cons]

/-- Put on the buffer is put on the queue that it holds. -/
theorem put (item : α) : ∃ after, ring.put item =
      .ok ((Fifo.put ring.maxSize queue item).1, after) ∧
    Holds after (Fifo.put ring.maxSize queue item).2 ∧ after.maxSize = ring.maxSize := by
  have htail := holds.tail_lt
  have hhead := holds.head_lt
  rcases Nat.lt_or_ge queue.length ring.maxSize with hroom | hfull
  · have hflag : ring.full = false :=
      holds.full_eq.trans (decide_eq_false (Nat.ne_of_lt hroom))
    have hold : ring.oldest = .ok none := by
      rw [oldest, hflag]
      rfl
    have hstays : ring.tailAfter = .ok ring.tail := by
      rw [tailAfter, hflag]
      rfl
    have hnext := Ring.next_slot htail hroom
    rw [← holds.head_eq] at hnext
    have hmore : (queue ++ [item]).length = queue.length + 1 := List.length_append
    have hmeet : Ring.slot ring.maxSize ring.tail (queue.length + 1) = ring.tail ↔
        queue.length + 1 = ring.maxSize := by
      unfold Ring.slot
      split_ifs <;> omega
    rw [RingBuffer.put, hold, holds.write_eq item, hstays, ring.advance_eq hhead, hnext,
      Fifo.put_of_lt hroom]
    refine ⟨_, rfl, ⟨htail, ?_, ?_, ?_, ?_⟩, rfl⟩
    · rw [hmore]
      exact hroom
    · rw [hmore]
    · rw [hmore]
      exact decide_eq_decide.mpr hmeet
    · rw [hmore, holds.head_eq, Ring.window_update hroom, holds.window]
  · have hexact : queue.length = ring.maxSize := Nat.le_antisymm holds.length_le hfull
    have hflag : ring.full = true := holds.full_eq.trans (decide_eq_true hexact)
    have hsame : ring.head = ring.tail := by rw [holds.head_eq, hexact, Ring.slot_full]
    have hwindow := holds.window
    rw [hexact] at hwindow
    have holdest := holds.buf_tail_eq (Nat.lt_of_lt_of_le (Nat.zero_lt_of_lt htail) hfull)
    have hold : ring.oldest = .ok queue.head? := by
      rw [oldest, hflag, if_pos rfl, ring.read_eq htail, holdest]
      rfl
    have hmoves : ring.tailAfter = .ok (Ring.next ring.maxSize ring.tail) := by
      rw [tailAfter, hflag, if_pos rfl, ring.advance_eq htail]
    have hlength : (queue.tail ++ [item]).length = ring.maxSize := by
      rw [List.length_append, List.length_tail, List.length_singleton]
      omega
    rw [RingBuffer.put, hold, holds.write_eq item, hmoves, ring.advance_eq hhead, hsame,
      Fifo.put_of_full hfull]
    refine ⟨_, rfl, ⟨Ring.next_lt htail, Nat.le_of_eq hlength, ?_, ?_, ?_⟩, rfl⟩
    · rw [hlength, Ring.slot_full]
    · rw [hlength, decide_eq_true rfl, decide_eq_true rfl]
    · have hrotate := Ring.window_rotate ring.buf htail item
      rw [hlength, hrotate, hwindow]

theorem get : ∃ after, ring.get = .ok ((Fifo.get queue).1, after) ∧
    Holds after (Fifo.get queue).2 ∧ after.maxSize = ring.maxSize := by
  have htail := holds.tail_lt
  have hlength := holds.length_le
  unfold RingBuffer.get
  cases queue with
  | nil =>
      rw [holds.empty_iff.mpr rfl, if_pos rfl]
      exact ⟨ring, rfl, holds, rfl⟩
  | cons oldest rest =>
      rw [List.length_cons] at hlength
      have hnot : ¬ ring.empty = true := by
        rw [holds.empty_iff]
        exact List.cons_ne_nil _ _
      have hwindow := holds.window
      rw [List.length_cons, Ring.window_cons ring.buf htail hlength] at hwindow
      rcases List.cons.inj hwindow with ⟨holdest, hrest⟩
      have hnext := Ring.next_lt htail
      rw [if_neg hnot, ring.read_eq htail, ring.advance_eq htail, holdest]
      refine ⟨_, rfl, ⟨hnext, Nat.le_of_lt hlength, ?_, ?_, hrest⟩, rfl⟩
      · exact holds.head_eq.trans (Ring.slot_next htail hlength).symm
      · exact (decide_eq_false (Nat.ne_of_lt hlength)).symm

end

end Holds

end RingBuffer

end OrkAudio.LiveStream
