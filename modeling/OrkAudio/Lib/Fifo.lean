import OrkAudio.Lib.Ring

/-! Bounded queues, first in, first out, and the window of a ring that holds one.

On a full queue the oldest element makes room and is handed out, so that nothing is lost:
what has been handed out and what waits is what was put in, in order. -/

namespace OrkAudio.Lib

namespace Fifo

variable {α : Type*}

def put (capacity : Nat) (queue : List α) (item : α) : Option α × List α :=
  if queue.length < capacity then (none, queue ++ [item]) else (queue.head?, queue.tail ++ [item])

def get : List α → Option α × List α
  | [] => (none, [])
  | oldest :: rest => (some oldest, rest)

variable {capacity : Nat} {queue : List α} {item : α}

theorem put_of_lt (hroom : queue.length < capacity) :
    put capacity queue item = (none, queue ++ [item]) := if_pos hroom

theorem put_of_full (hfull : capacity ≤ queue.length) :
    put capacity queue item = (queue.head?, queue.tail ++ [item]) := if_neg (by omega)

theorem put_conserves (hcapacity : 0 < capacity) :
    (put capacity queue item).1.toList ++ (put capacity queue item).2 = queue ++ [item] := by
  rcases Nat.lt_or_ge queue.length capacity with hroom | hfull
  · rw [put_of_lt hroom]
    rfl
  · rw [put_of_full hfull]
    cases queue with
    | nil =>
        rw [List.length_nil] at hfull
        omega
    | cons oldest rest => rfl

theorem get_conserves (queue : List α) : (get queue).1.toList ++ (get queue).2 = queue := by
  cases queue <;> rfl

/-- Only what was in the queue comes out of it. -/
theorem mem_of_put {other : α} (hother : other ∈ (put capacity queue item).2) :
    other ∈ queue ∨ other = item := by
  unfold put at hother
  split_ifs at hother
  · simpa using hother
  · rcases List.mem_append.mp hother with htail | hitem
    · exact .inl (List.mem_of_mem_tail htail)
    · exact .inr (List.mem_singleton.mp hitem)

theorem mem_of_put_out {other : α} (hother : (put capacity queue item).1 = some other) :
    other ∈ queue := by
  unfold put at hother
  split_ifs at hother
  exact List.mem_of_mem_head? hother

theorem mem_of_get_out {other : α} (hother : (get queue).1 = some other) : other ∈ queue := by
  cases queue with
  | nil => cases hother
  | cons oldest rest =>
      rcases Option.some.inj hother with rfl
      exact List.mem_cons_self

theorem mem_of_get {other : α} (hother : other ∈ (get queue).2) : other ∈ queue := by
  rw [← get_conserves queue]
  exact List.mem_append_right _ hother

theorem map_put {β : Type*} (f : α → β) :
    put capacity (queue.map f) (f item) =
      ((put capacity queue item).1.map f, (put capacity queue item).2.map f) := by
  unfold put
  rw [List.length_map]
  split_ifs
  · simp
  · cases queue <;> simp

theorem map_get {β : Type*} (f : α → β) (queue : List α) :
    get (queue.map f) = ((get queue).1.map f, (get queue).2.map f) := by
  cases queue <;> rfl

end Fifo

namespace Ring

variable {α : Type*} {size base count : Nat} {buffer : Nat → α}

theorem window_cons (buffer : Nat → α) (hbase : base < size) (hcount : count < size) :
    window size buffer base (count + 1) =
      buffer base :: window size buffer (next size base) count := by
  rw [window, List.range_succ_eq_map, List.map_cons, slot_zero hbase, List.map_map]
  congr 1
  apply List.map_congr_left
  intro i hi
  rw [List.mem_range] at hi
  rw [Function.comp_apply, slot_next hbase (by omega)]

theorem window_congr {other : Nat → α} (same : ∀ i < count,
    buffer (slot size base i) = other (slot size base i)) :
    window size buffer base count = window size other base count := by
  apply List.map_congr_left
  intro i hi
  exact same i (List.mem_range.mp hi)

/-- A value written behind the window makes it longer. -/
theorem window_update (hcount : count < size) (item : α) :
    window size (Function.update buffer (slot size base count) item) base (count + 1) =
      window size buffer base count ++ [item] := by
  have hsame : window size (Function.update buffer (slot size base count) item) base count =
      window size buffer base count := by
    apply window_congr
    intro i hi
    apply Function.update_of_ne
    intro heq
    have hequal := slot_injective (by omega) hcount heq
    omega
  rw [← hsame, window, List.range_succ, List.map_append, List.map_singleton,
    Function.update_self]
  rfl

/-- A full window moves on over a value written in the place of its oldest. -/
theorem window_rotate (buffer : Nat → α) (hbase : base < size) (item : α) :
    window size (Function.update buffer base item) (next size base) size =
      (window size buffer base size).tail ++ [item] := by
  rcases Nat.exists_eq_succ_of_ne_zero (Nat.ne_of_gt (Nat.zero_lt_of_lt hbase)) with ⟨last, rfl⟩
  have hslot : slot (last + 1) (next (last + 1) base) last = base := by
    rw [slot_next hbase (Nat.lt_succ_self last), slot_full]
  have hupdate := @window_update _ _ (next (last + 1) base) _ buffer (Nat.lt_succ_self last) item
  rw [hslot] at hupdate
  rw [hupdate, window_cons buffer hbase (Nat.lt_succ_self last), List.tail_cons]

theorem mod_eq_next {cell : Nat} (hcell : cell < size) : (cell + 1) % size = next size cell := by
  unfold next
  split_ifs with hend
  · have hlast : cell + 1 = size := by omega
    rw [hlast, Nat.mod_self]
  · exact Nat.mod_eq_of_lt (by omega)

end Ring

end OrkAudio.Lib
