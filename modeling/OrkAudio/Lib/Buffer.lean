import OrkAudio.Lib.Ring
import OrkAudio.Lib.Fallible

/-! Checked writes into buffers of a fixed size.

A buffer is a function on cell numbers together with the number of cells that belong to it;
a write that would leave them is an error. The stretches of a buffer are read with
`Ring.slice`. -/

namespace OrkAudio.Lib

theorem Ring.slice_append {α : Type*} (buffer : Nat → α) (cell first second : Nat) :
    Ring.slice buffer cell (first + second) =
      Ring.slice buffer cell first ++ Ring.slice buffer (cell + first) second :=
  Ring.stretch_append buffer cell first second

namespace Buffer

variable {ε α : Type}

/-- The buffer with values written from the cell `offset` on. -/
def written (memory : Nat → α) (offset : Nat) (values : List α) : Nat → α :=
  fun i => if offset ≤ i then values.getD (i - offset) (memory i) else memory i

/-- Write into a buffer that has room for `size` values. -/
def write (overrun : ε) (size : Nat) (memory : Nat → α) (offset : Nat) (values : List α) :
    Except ε (Nat → α) :=
  if offset + values.length ≤ size then .ok (written memory offset values) else .error overrun

@[simp] theorem succeeds_write (overrun : ε) (size : Nat) (memory : Nat → α) (offset : Nat)
    (values : List α) :
    Succeeds (write overrun size memory offset values) ↔ offset + values.length ≤ size := by
  unfold write
  split <;> simp [*]

theorem write_eq (overrun : ε) {size : Nat} (memory : Nat → α) {offset : Nat} {values : List α}
    (hroom : offset + values.length ≤ size) :
    write overrun size memory offset values = .ok (written memory offset values) :=
  if_pos hroom

/-- What was written can be read back. -/
theorem slice_written (memory : Nat → α) (offset : Nat) (values : List α) :
    Ring.slice (written memory offset values) offset values.length = values := by
  apply List.ext_getElem
  · simp
  · intro i _ hi
    simp [Ring.slice, written, List.getElem?_eq_getElem hi]

/-- A write leaves the cells before it alone. -/
theorem slice_written_before (memory : Nat → α) {offset cell count : Nat} (values : List α)
    (hbefore : cell + count ≤ offset) :
    Ring.slice (written memory offset values) cell count = Ring.slice memory cell count := by
  apply List.map_congr_left
  intro i hi
  rw [List.mem_range] at hi
  rw [written, if_neg (by omega)]

/-- Writing on where the contents end appends to them. -/
theorem slice_written_append (memory : Nat → α) (offset : Nat) (values : List α) :
    Ring.slice (written memory offset values) 0 (offset + values.length) =
      Ring.slice memory 0 offset ++ values := by
  rw [Ring.slice_append, slice_written_before memory values (by omega), Nat.zero_add,
    slice_written]

end Buffer

end OrkAudio.Lib
