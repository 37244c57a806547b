import Mathlib.Data.List.Basic

/-! Stores of bytes in a memory, each meant for a field of its own. -/

namespace OrkAudio.Lib

/-- The bytes by their addresses. -/
abbrev Memory := Nat → UInt8

def Memory.read (memory : Memory) (offset size : Nat) : List UInt8 :=
  (List.range size).map fun i => memory (offset + i)

/-- A field of a C structure. -/
structure CField where
  offset : Nat
  size : Nat

namespace CField

def Apart (field other : CField) : Prop :=
  field.offset + field.size ≤ other.offset ∨ other.offset + other.size ≤ field.offset

instance decidableApart (field other : CField) : Decidable (field.Apart other) :=
  inferInstanceAs (Decidable (_ ∨ _))

/-- A string that is read from the start of the field ends inside it. -/
def Terminated (field : CField) (memory : Memory) : Prop :=
  ∃ i < field.size, memory (field.offset + i) = 0

end CField

/-- Bytes that are written from the start of a field on; nothing keeps them within it. -/
structure Store where
  field : CField
  bytes : List UInt8

namespace Store

def Inside (store : Store) : Prop := store.bytes.length ≤ store.field.size

instance decidableInside (store : Store) : Decidable store.Inside :=
  inferInstanceAs (Decidable (_ ≤ _))

def apply (memory : Memory) (store : Store) : Memory := fun address =>
  if store.field.offset ≤ address then
    store.bytes.getD (address - store.field.offset) (memory address)
  else memory address

def applyAll (memory : Memory) (stores : List Store) : Memory := stores.foldl apply memory

variable {memory : Memory} {store : Store} {stores : List Store}

theorem apply_written {i : Nat} {byte : UInt8} (hbyte : store.bytes[i]? = some byte) :
    apply memory store (store.field.offset + i) = byte := by
  rw [apply, if_pos (Nat.le_add_right _ _), Nat.add_sub_cancel_left, List.getD_eq_getElem?_getD,
    hbyte, Option.getD_some]

theorem apply_outside {address : Nat} (houtside : address < store.field.offset ∨
    store.field.offset + store.bytes.length ≤ address) :
    apply memory store address = memory address := by
  unfold apply
  split_ifs with hstart
  · have hlength : store.bytes.length ≤ address - store.field.offset := by omega
    rw [List.getD_eq_getElem?_getD, List.getElem?_eq_none hlength, Option.getD_none]
  · rfl

theorem applyAll_outside {address : Nat}
    (houtside : ∀ store ∈ stores, address < store.field.offset ∨
      store.field.offset + store.bytes.length ≤ address) :
    applyAll memory stores address = memory address := by
  induction stores generalizing memory with
  | nil => rfl
  | cons store stores ih =>
      rw [List.forall_mem_cons] at houtside
      exact (ih houtside.2).trans (apply_outside houtside.1)

/-- Where no store leaves its field and no two fields meet, each store is found as it was
written. -/
theorem applyAll_written (hinside : ∀ store ∈ stores, store.Inside)
    (hapart : (stores.map Store.field).Pairwise CField.Apart) (hstore : store ∈ stores) {i : Nat}
    {byte : UInt8} (hbyte : store.bytes[i]? = some byte) :
    applyAll memory stores (store.field.offset + i) = byte := by
  induction stores generalizing memory with
  | nil => cases hstore
  | cons first stores ih =>
      rw [List.forall_mem_cons] at hinside
      rw [List.map_cons, List.pairwise_cons] at hapart
      rcases List.mem_cons.mp hstore with rfl | hrest
      · have hlater : applyAll (apply memory store) stores (store.field.offset + i) =
            apply memory store (store.field.offset + i) := by
          apply applyAll_outside
          intro later hlater
          have hfields : store.field.Apart later.field :=
            hapart.1 later.field (List.mem_map_of_mem hlater)
          have hsize : later.bytes.length ≤ later.field.size := hinside.2 later hlater
          have hown : store.bytes.length ≤ store.field.size := hinside.1
          have hi : i < store.bytes.length := (List.getElem?_eq_some_iff.mp hbyte).1
          rcases hfields with hbefore | hbehind
          · left
            omega
          · right
            omega
        exact hlater.trans (apply_written hbyte)
      · exact ih hinside.2 hapart.2 hrest

theorem terminated_of_zero_mem (hinside : ∀ store ∈ stores, store.Inside)
    (hapart : (stores.map Store.field).Pairwise CField.Apart) (hstore : store ∈ stores)
    (hzero : 0 ∈ store.bytes) : store.field.Terminated (applyAll memory stores) := by
  obtain ⟨i, hi⟩ := List.mem_iff_getElem?.mp hzero
  have hlength : i < store.bytes.length := (List.getElem?_eq_some_iff.mp hi).1
  exact ⟨i, Nat.lt_of_lt_of_le hlength (hinside store hstore),
    applyAll_written hinside hapart hstore hi⟩

/-- A field that is filled up ends only at a zero that was written. -/
theorem zero_mem_of_terminated (hinside : ∀ store ∈ stores, store.Inside)
    (hapart : (stores.map Store.field).Pairwise CField.Apart) (hstore : store ∈ stores)
    (hfilled : store.bytes.length = store.field.size)
    (hterminated : store.field.Terminated (applyAll memory stores)) : 0 ∈ store.bytes := by
  obtain ⟨i, hi, hzero⟩ := hterminated
  have hlength : i < store.bytes.length := Nat.lt_of_lt_of_eq hi hfilled.symm
  have hbyte := List.getElem?_eq_getElem hlength
  rw [applyAll_written hinside hapart hstore hbyte] at hzero
  rw [← hzero]
  exact List.getElem_mem hlength

/-- What is read from the start of a field, of any size, begins with what was stored there. -/
theorem prefix_read (hinside : ∀ store ∈ stores, store.Inside)
    (hapart : (stores.map Store.field).Pairwise CField.Apart) (hstore : store ∈ stores) {size : Nat}
    (hsize : store.bytes.length ≤ size) :
    store.bytes <+: (applyAll memory stores).read store.field.offset size := by
  rw [List.prefix_iff_getElem?]
  intro i hi
  have hbyte := List.getElem?_eq_getElem hi
  rw [Memory.read, List.getElem?_map, List.getElem?_range (Nat.lt_of_lt_of_le hi hsize),
    Option.map_some, applyAll_written hinside hapart hstore hbyte]

end Store

end OrkAudio.Lib
