import Mathlib.Data.List.Basic
import Mathlib.Logic.Function.Basic
import Mathlib.Logic.Function.Iterate

/-! A circular buffer of `size` cells holding a window of an unbounded timeline.

The buffer is a function on cell numbers. A position is a base cell and a distance
walked from it; the distance never exceeds `size`, so one comparison replaces the
remainder. `Holds` says which stretch of a timeline the cells from the base on carry,
and its rules say what walking over cells, writing past the end of the window,
updating inside it and moving the base forward do to that stretch. -/

namespace OrkAudio.Lib.Ring

variable {α β : Type*}

/-- The cell after `cell`. -/
def next (size cell : Nat) : Nat := if cell + 1 ≥ size then 0 else cell + 1

/-- The cell `distance` cells after `base`, for a distance of at most `size`. -/
def slot (size base distance : Nat) : Nat :=
  if base + distance < size then base + distance else base + distance - size

theorem next_lt {size cell : Nat} (hcell : cell < size) : next size cell < size := by
  unfold next
  split <;> omega

theorem slot_lt {size base distance : Nat} (hbase : base < size) (hdistance : distance ≤ size) :
    slot size base distance < size := by
  unfold slot
  split <;> omega

theorem slot_zero {size base : Nat} (hbase : base < size) : slot size base 0 = base := by
  simp [slot, hbase]

theorem slot_full (size base : Nat) : slot size base size = base := by
  unfold slot
  split <;> omega

theorem slot_next {size base distance : Nat} (hbase : base < size)
    (hdistance : distance < size) :
    slot size (next size base) distance = slot size base (distance + 1) := by
  unfold slot next
  split_ifs <;> omega

theorem next_slot {size base distance : Nat} (hbase : base < size)
    (hdistance : distance < size) :
    next size (slot size base distance) = slot size base (distance + 1) := by
  unfold slot next
  split_ifs <;> omega

theorem slot_slot {size base first second : Nat} (hbase : base < size)
    (htotal : first + second ≤ size) :
    slot size (slot size base first) second = slot size base (first + second) := by
  unfold slot
  split_ifs <;> omega

theorem slot_injective {size base first second : Nat}
    (hfirst : first < size) (hsecond : second < size)
    (heq : slot size base first = slot size base second) : first = second := by
  unfold slot at heq
  split_ifs at heq <;> omega

theorem next_iterate {size base count : Nat} (hbase : base < size) (hcount : count ≤ size) :
    (next size)^[count] base = slot size base count := by
  induction count with
  | zero => rw [slot_zero hbase]; rfl
  | succ count ih =>
      rw [Function.iterate_succ_apply', ih (by omega), next_slot hbase (by omega)]

/-- Walk over the cells from `cell` on, one for each element of the list, and update
each with its element. -/
def sweep (size : Nat) (update : β → α → α) : List β → Nat → (Nat → α) → (Nat → α)
  | [], _, buffer => buffer
  | x :: xs, cell, buffer =>
      sweep size update xs (next size cell)
        (Function.update buffer cell (update x (buffer cell)))

theorem sweep_slot {size : Nat} (update : β → α → α) (xs : List β) {cell : Nat}
    (buffer : Nat → α) (hcell : cell < size) (hlength : xs.length ≤ size)
    (distance : Nat) (hdistance : distance < size) :
    sweep size update xs cell buffer (slot size cell distance) =
      if h : distance < xs.length then
        update (xs.get ⟨distance, h⟩) (buffer (slot size cell distance))
      else buffer (slot size cell distance) := by
  induction xs generalizing cell buffer distance with
  | nil => simp [sweep]
  | cons x xs ih =>
      rw [List.length_cons] at hlength
      cases distance with
      | zero =>
          -- the cell just written is the last one the rest of the walk could reach
          have hlast : slot size (next size cell) (size - 1) = cell := by
            rw [slot_next hcell (by omega), show size - 1 + 1 = size by omega, slot_full]
          have hrest := ih (Function.update buffer cell (update x (buffer cell)))
            (next_lt hcell) (by omega) (size - 1) (by omega)
          rw [hlast, dif_neg (by omega)] at hrest
          simp only [sweep, slot_zero hcell, hrest]
          simp
      | succ distance =>
          have hrest := ih (Function.update buffer cell (update x (buffer cell)))
            (next_lt hcell) (by omega) distance (by omega)
          have hother : slot size cell (distance + 1) ≠ cell := by
            intro heq
            have hzero := slot_injective hdistance (by omega : 0 < size)
              (heq.trans (slot_zero hcell).symm)
            omega
          rw [slot_next hcell (by omega), Function.update_of_ne hother] at hrest
          simpa [sweep] using hrest

/-- The cells from `base` on carry the timeline `line` on `[lo, hi)`. -/
def Holds (size : Nat) (buffer : Nat → α) (base lo hi : Nat) (line : Nat → α) : Prop :=
  ∀ t, lo ≤ t → t < hi → buffer (slot size base (t - lo)) = line t

namespace Holds

variable {size base lo hi : Nat} {buffer : Nat → α} {line : Nat → α}

theorem empty (buffer : Nat → α) (base lo : Nat) (line : Nat → α) :
    Holds size buffer base lo lo line := by
  intro t hlo hhi
  omega

theorem congr {other : Nat → α} (holds : Holds size buffer base lo hi line)
    (same : ∀ t, lo ≤ t → t < hi → line t = other t) :
    Holds size buffer base lo hi other := by
  intro t hlo hhi
  rw [holds t hlo hhi, same t hlo hhi]

/-- Moving the base forward drops the stretch before it. -/
theorem advance (holds : Holds size buffer base lo hi line) (hbase : base < size)
    {mid : Nat} (hmid : lo ≤ mid) (hwindow : hi - lo ≤ size) :
    Holds size buffer (slot size base (mid - lo)) mid hi line := by
  intro t hlo ht
  rw [slot_slot hbase (by omega), show mid - lo + (t - mid) = t - lo by omega]
  exact holds t (by omega) ht

/-- Walking over the cells that follow the window appends to it what the walk writes. -/
theorem extend (holds : Holds size buffer base lo hi line) (hbase : base < size)
    (hlohi : lo ≤ hi) (update : β → α → α) (xs : List β)
    (hroom : hi - lo + xs.length ≤ size) (hline : ∀ (i : Nat) (h : i < xs.length) (old : α),
      update (xs.get ⟨i, h⟩) old = line (hi + i)) :
    Holds size (sweep size update xs (slot size base (hi - lo)) buffer)
      base lo (hi + xs.length) line := by
  intro t hlo ht
  have hempty : hi - lo = size → xs = [] := by
    intro hfull
    exact List.length_eq_zero_iff.mp (by omega)
  by_cases hin : t < hi
  · by_cases hfull : hi - lo = size
    · rw [hempty hfull, sweep]
      exact holds t hlo hin
    · -- the cell of `t` lies before the walk, that is `size - (hi - t)` cells after its start
      have hcell := slot_lt hbase (by omega : hi - lo ≤ size)
      have hsame : slot size (slot size base (hi - lo)) (size - (hi - t)) =
          slot size base (t - lo) := by
        unfold slot
        split_ifs <;> omega
      have hwalk := sweep_slot update xs buffer hcell (by omega)
        (size - (hi - t)) (by omega)
      rw [dif_neg (by omega), hsame] at hwalk
      rw [hwalk]
      exact holds t hlo hin
  · have hcell := slot_lt hbase (by omega : hi - lo ≤ size)
    have hwalk := sweep_slot update xs buffer hcell (by omega)
      (t - hi) (by omega)
    rw [dif_pos (by omega), slot_slot hbase (by omega),
      show hi - lo + (t - hi) = t - lo by omega] at hwalk
    rw [hwalk, hline]
    congr 1
    omega

/-- Walking over cells inside the window updates the timeline there and nowhere else. -/
theorem inside (holds : Holds size buffer base lo hi line) (hbase : base < size)
    (hwindow : hi - lo ≤ size) (update : β → α → α) (xs : List β) {start : Nat}
    (hstart : lo ≤ start) (hstop : start + xs.length ≤ hi) :
    Holds size (sweep size update xs (slot size base (start - lo)) buffer) base lo hi
      (fun t => if h : start ≤ t ∧ t < start + xs.length then
        update (xs.get ⟨t - start, by omega⟩) (line t) else line t) := by
  intro t hlo ht
  have hcell := slot_lt hbase (by omega : start - lo ≤ size)
  by_cases hin : start ≤ t
  · have hwalk := sweep_slot update xs buffer hcell (by omega)
      (t - start) (by omega)
    rw [slot_slot hbase (by omega), show start - lo + (t - start) = t - lo by omega] at hwalk
    rw [hwalk, holds t hlo ht]
    by_cases hend : t < start + xs.length
    · simp only [hin, hend, and_self, dite_true, dif_pos (show t - start < xs.length by omega)]
    · simp only [hend, and_false, dite_false, dif_neg (show ¬ t - start < xs.length by omega)]
  · -- the cell of `t` lies before the walk
    have hsame : slot size (slot size base (start - lo)) (size - (start - t)) =
        slot size base (t - lo) := by
      unfold slot
      split_ifs <;> omega
    have hwalk := sweep_slot update xs buffer hcell (by omega)
      (size - (start - t)) (by omega)
    rw [dif_neg (by omega), hsame] at hwalk
    rw [hwalk, holds t hlo ht]
    simp only [hin, false_and, dite_false]

end Holds

/-- The contents of `count` consecutive cells from `cell` on, without wrapping. -/
def slice (buffer : Nat → α) (cell count : Nat) : List α :=
  (List.range count).map fun i => buffer (cell + i)

@[simp] theorem slice_length (buffer : Nat → α) (cell count : Nat) :
    (slice buffer cell count).length = count := by
  simp [slice]

/-- The timeline `line` on `[lo, lo + count)` as a list. -/
def stretch (line : Nat → α) (lo count : Nat) : List α :=
  (List.range count).map fun i => line (lo + i)

theorem stretch_append (line : Nat → α) (lo first second : Nat) :
    stretch line lo (first + second) =
      stretch line lo first ++ stretch line (lo + first) second := by
  simp only [stretch, List.range_add, List.map_append, List.map_map]
  congr 1
  apply List.map_congr_left
  intro i _
  simp only [Function.comp, Nat.add_assoc]

theorem stretch_congr {line other : Nat → α} {lo count : Nat}
    (same : ∀ t, lo ≤ t → t < lo + count → line t = other t) :
    stretch line lo count = stretch other lo count := by
  apply List.map_congr_left
  intro i hi
  rw [List.mem_range] at hi
  exact same _ (by omega) (by omega)

/-- The contents of the `count` cells walked over from `base` on. -/
def window (size : Nat) (buffer : Nat → α) (base count : Nat) : List α :=
  (List.range count).map fun i => buffer (slot size base i)

/-- A window that does not reach past the end of the buffer is one slice. -/
theorem window_eq_slice {size base count : Nat} (buffer : Nat → α) (hend : base + count ≤ size) :
    window size buffer base count = slice buffer base count := by
  apply List.map_congr_left
  intro i hi
  rw [List.mem_range] at hi
  simp only [slot, if_pos (show base + i < size by omega)]

/-- A window that wraps is two slices: up to the end of the buffer, and from its start. -/
theorem window_eq_append {size base : Nat} (buffer : Nat → α) (rest : Nat)
    (hbase : base ≤ size) :
    window size buffer base (size - base + rest) =
      slice buffer base (size - base) ++ slice buffer 0 rest := by
  simp only [window, slice, List.range_add, List.map_append, List.map_map]
  congr 1
  · apply List.map_congr_left
    intro i hi
    rw [List.mem_range] at hi
    simp only [slot, if_pos (show base + i < size by omega)]
  · apply List.map_congr_left
    intro i _
    simp only [Function.comp, slot, if_neg (show ¬ base + (size - base + i) < size by omega)]
    congr 1
    omega

/-- Read from the base, a window is the timeline there. -/
theorem Holds.window {size base lo hi count : Nat} {buffer : Nat → α} {line : Nat → α}
    (holds : Holds size buffer base lo hi line) (hcount : lo + count ≤ hi) :
    Ring.window size buffer base count = stretch line lo count := by
  apply List.map_congr_left
  intro i hi
  rw [List.mem_range] at hi
  have hcell := holds (lo + i) (by omega) (by omega)
  rwa [show lo + i - lo = i by omega] at hcell

end OrkAudio.Lib.Ring
