import Mathlib.Data.List.Nodup

/-! Maps of a limited size that forget the pair that was used the longest ago.

The pairs stand in the order of their last use, the oldest first. A value carries the limit
and the proof that it is kept, so that every operation gives such a map again. -/

namespace OrkAudio.Lib

structure Lru (κ α : Type*) where
  entries : List (κ × α)
  size : Nat
  distinct : (entries.map Prod.fst).Nodup
  bounded : entries.length ≤ size
  pos : 0 < size

namespace Lru

variable {κ α : Type*} [DecidableEq κ]

def empty (size : Nat) (pos : 0 < size) : Lru κ α where
  entries := []
  size := size
  distinct := List.nodup_nil
  bounded := Nat.zero_le size
  pos := pos

def keys (map : Lru κ α) : List κ := map.entries.map Prod.fst

def without (key : κ) (entries : List (κ × α)) : List (κ × α) :=
  entries.filter fun entry => decide (entry.1 ≠ key)

theorem without_sublist (key : κ) (entries : List (κ × α)) :
    (without key entries).Sublist entries := List.filter_sublist

theorem key_notMem_without (key : κ) (entries : List (κ × α)) :
    key ∉ (without key entries).map Prod.fst := by
  simp [without]

/-- Leaving a key out of pairs that do not have it changes nothing. -/
theorem without_of_notMem {key : κ} {entries : List (κ × α)}
    (absent : key ∉ entries.map Prod.fst) : without key entries = entries := by
  apply List.filter_eq_self.mpr
  intro entry hentry
  apply decide_eq_true
  intro heq
  exact absent (heq ▸ List.mem_map_of_mem hentry)

/-- Leaving out the key of the first pair leaves the other ones. -/
theorem without_head {entry : κ × α} {rest : List (κ × α)}
    (distinct : ((entry :: rest).map Prod.fst).Nodup) :
    without entry.1 (entry :: rest) = rest := by
  rw [List.map_cons, List.nodup_cons] at distinct
  rw [without, List.filter_cons_of_neg (by simp)]
  exact without_of_notMem distinct.1

theorem length_without_lt {key : κ} {entries : List (κ × α)}
    (present : key ∈ entries.map Prod.fst) : (without key entries).length < entries.length := by
  obtain ⟨entry, hentry, hkey⟩ := List.mem_map.mp present
  exact List.length_filter_lt_length_iff_exists.mpr ⟨entry, hentry, by simp [hkey]⟩

def remove (map : Lru κ α) (key : κ) : Lru κ α where
  entries := without key map.entries
  size := map.size
  distinct := ((without_sublist key map.entries).map Prod.fst).nodup map.distinct
  bounded := Nat.le_trans (without_sublist key map.entries).length_le map.bounded
  pos := map.pos

def removeOldest (map : Lru κ α) : Lru κ α where
  entries := map.entries.tail
  size := map.size
  distinct := ((List.tail_sublist map.entries).map Prod.fst).nodup map.distinct
  bounded := Nat.le_trans (List.tail_sublist map.entries).length_le map.bounded
  pos := map.pos

def clear (map : Lru κ α) : Lru κ α := empty map.size map.pos

/-- Raise the limit; it is never lowered. -/
def setSize (map : Lru κ α) (size : Nat) : Lru κ α :=
  { map with
    size := max map.size size
    bounded := Nat.le_trans map.bounded (Nat.le_max_left _ _)
    pos := Nat.lt_of_lt_of_le map.pos (Nat.le_max_left _ _) }

/-- The pairs beside which a new pair for this key is put: those without the key, and
without the oldest one when the key is new and there is no room. -/
def room (map : Lru κ α) (key : κ) : List (κ × α) :=
  if key ∈ map.keys then without key map.entries
  else if map.entries.length < map.size then map.entries
  else map.entries.tail

theorem room_sublist (map : Lru κ α) (key : κ) : (map.room key).Sublist map.entries := by
  unfold room
  split_ifs
  · exact without_sublist key map.entries
  · exact List.Sublist.refl _
  · exact List.tail_sublist map.entries

theorem key_notMem_room (map : Lru κ α) (key : κ) : key ∉ (map.room key).map Prod.fst := by
  by_cases present : key ∈ map.keys
  · rw [room, if_pos present]
    exact key_notMem_without key map.entries
  · intro hmem
    exact present (((map.room_sublist key).map Prod.fst).subset hmem)

theorem length_room_lt (map : Lru κ α) (key : κ) : (map.room key).length < map.size := by
  have hbound := map.bounded
  have hpos := map.pos
  unfold room
  split_ifs with present hroom
  · exact Nat.lt_of_lt_of_le (length_without_lt present) hbound
  · exact hroom
  · rw [List.length_tail]
    omega

def insert (map : Lru κ α) (key : κ) (value : α) : Lru κ α where
  entries := map.room key ++ [(key, value)]
  size := map.size
  distinct := by
    rw [List.map_append, List.nodup_append]
    refine ⟨((map.room_sublist key).map Prod.fst).nodup map.distinct, by simp, ?_⟩
    intro other hother last hlast heq
    simp only [List.map_cons, List.map_nil, List.mem_singleton] at hlast
    apply map.key_notMem_room key
    rwa [heq, hlast] at hother
  bounded := by
    rw [List.length_append]
    exact map.length_room_lt key
  pos := map.pos

omit [DecidableEq κ] in
theorem ext {map other : Lru κ α} (hentries : map.entries = other.entries)
    (hsize : map.size = other.size) : map = other := by
  cases map
  cases other
  congr

end Lru

end OrkAudio.Lib
