import Mathlib

/-! Lists kept in the strict order of a key, and maps made of them.

`insertByKey` walks to the place of a new element and refuses a key that is taken, as a
loop over a sorted linked list or the insertion of an ordered map does. A map is a sorted
list of pairs, so that walking over it visits the keys in order; what the operations do is
said of the membership of pairs and of `find?`. -/

namespace OrkAudio.Lib

variable {κ α : Type*} [LinearOrder κ]

/-- The list with `x` at its place, none when the key of `x` is met on the way. -/
def insertByKey (key : α → κ) (x : α) : List α → Option (List α)
  | [] => some [x]
  | y :: ys =>
      if key y = key x then none
      else if key y > key x then some (x :: y :: ys)
      else (insertByKey key x ys).map (y :: ·)

section insertByKey

variable {key : α → κ}

/-- The elements are in strict order of their keys. -/
abbrev SortedBy (key : α → κ) (xs : List α) : Prop := xs.Pairwise fun y z => key y < key z

theorem SortedBy.key_injective {xs : List α} (sorted : SortedBy key xs) {y z : α}
    (hy : y ∈ xs) (hz : z ∈ xs) (hkey : key y = key z) : y = z := by
  induction xs with
  | nil => cases hy
  | cons x xs ih =>
      rw [SortedBy, List.pairwise_cons] at sorted
      rcases List.mem_cons.mp hy with rfl | hy' <;> rcases List.mem_cons.mp hz with rfl | hz'
      · rfl
      · exact absurd hkey (sorted.1 z hz').ne
      · exact absurd hkey (sorted.1 y hy').ne'
      · exact ih sorted.2 hy' hz'

theorem mem_insertByKey {x : α} {xs ys : List α} (hinsert : insertByKey key x xs = some ys)
    {z : α} : z ∈ ys ↔ z = x ∨ z ∈ xs := by
  induction xs generalizing ys with
  | nil =>
      obtain rfl := Option.some.inj hinsert
      simp
  | cons y xs ih =>
      unfold insertByKey at hinsert
      split_ifs at hinsert with htaken hplace
      · obtain rfl := Option.some.inj hinsert
        simp
      · obtain ⟨rest, hrest, rfl⟩ := Option.map_eq_some_iff.mp hinsert
        rw [List.mem_cons, ih hrest, List.mem_cons, or_left_comm]

theorem insertByKey_sorted {x : α} {xs ys : List α} (sorted : SortedBy key xs)
    (hinsert : insertByKey key x xs = some ys) : SortedBy key ys := by
  induction xs generalizing ys with
  | nil =>
      obtain rfl := Option.some.inj hinsert
      exact List.pairwise_singleton _ _
  | cons y xs ih =>
      have htail := (List.pairwise_cons.mp sorted).1
      unfold insertByKey at hinsert
      split_ifs at hinsert with htaken hplace
      · obtain rfl := Option.some.inj hinsert
        refine List.pairwise_cons.mpr ⟨?_, sorted⟩
        intro z hz
        rcases List.mem_cons.mp hz with rfl | hz
        · exact hplace
        · exact hplace.trans (htail z hz)
      · obtain ⟨rest, hrest, rfl⟩ := Option.map_eq_some_iff.mp hinsert
        refine List.pairwise_cons.mpr ⟨?_, ih (List.pairwise_cons.mp sorted).2 hrest⟩
        intro z hz
        rcases (mem_insertByKey hrest).mp hz with rfl | hz
        · exact lt_of_le_of_ne (not_lt.mp hplace) htaken
        · exact htail z hz

/-- A key is refused when it is taken and only then. -/
theorem insertByKey_eq_none {x : α} {xs : List α} (sorted : SortedBy key xs) :
    insertByKey key x xs = none ↔ ∃ y ∈ xs, key y = key x := by
  induction xs with
  | nil => simp [insertByKey]
  | cons y xs ih =>
      have htail := (List.pairwise_cons.mp sorted).1
      unfold insertByKey
      split_ifs with htaken hplace
      · simp [htaken]
      · simp only [List.mem_cons, exists_eq_or_imp, htaken, false_or, false_iff]
        rintro ⟨z, hz, hkey⟩
        exact absurd (hplace.trans (htail z hz)) (by rw [hkey]; exact lt_irrefl _)
      · simp [ih (List.pairwise_cons.mp sorted).2, htaken]

/-- Inserting into the part of a sorted list that `p` selects one more of its elements
gives the part that `p` selects together with that element. -/
theorem insertByKey_filter [DecidableEq α] {x : α} {xs : List α} (sorted : SortedBy key xs)
    (hx : x ∈ xs) {p : α → Bool} (hnew : p x = false) :
    insertByKey key x (xs.filter p) = some (xs.filter fun y => p y || decide (y = x)) := by
  induction xs with
  | nil => cases hx
  | cons y xs ih =>
      have htail := (List.pairwise_cons.mp sorted).1
      by_cases hyx : y = x
      · subst hyx
        have hrest : (xs.filter fun z => p z || decide (z = y)) = xs.filter p := by
          apply List.filter_congr
          intro z hz
          have hne : z ≠ y := fun heq => (htail z hz).ne' (congrArg key heq)
          simp [hne]
        simp only [List.filter_cons, hnew, Bool.false_eq_true, if_false, decide_true,
          Bool.or_true, if_true, hrest]
        cases hxs : xs.filter p with
        | nil => rfl
        | cons z zs =>
            have hz : z ∈ xs := (List.mem_filter.mp (hxs ▸ List.mem_cons_self : z ∈ xs.filter p)).1
            have hlt := htail z hz
            simp only [insertByKey, if_neg hlt.ne', gt_iff_lt, if_pos hlt]
      · have hmem : x ∈ xs := (List.mem_cons.mp hx).resolve_left (Ne.symm hyx)
        have hrest := ih (List.pairwise_cons.mp sorted).2 hmem
        have hlt := htail x hmem
        cases hpy : p y with
        | false => simp [hpy, hyx, hrest]
        | true =>
            simp [hpy, insertByKey, hlt.ne, hlt.not_gt, hrest]

theorem SortedBy.nodup {xs : List α} (sorted : SortedBy key xs) : xs.Nodup :=
  sorted.imp fun hlt heq => hlt.ne (congrArg key heq)

theorem insertByKey_map {β : Type*} (f : β → α) (x : β) (xs : List β) :
    insertByKey key (f x) (xs.map f) =
      (insertByKey (fun y => key (f y)) x xs).map (List.map f) := by
  induction xs with
  | nil => rfl
  | cons y xs ih =>
      simp only [List.map_cons, insertByKey]
      split_ifs with htaken hplace
      · rfl
      · rfl
      · rw [ih, Option.map_map, Option.map_map]
        rfl

end insertByKey

/-! ### Sizes of a selection -/

section sizes

variable {β : Type*} {size : β → Nat} {xs : List β} {p : β → Bool}

/-- Selecting one element more adds its size. -/
theorem sum_filter_insert [DecidableEq β] (nodup : xs.Nodup) {x : β} (hx : x ∈ xs) (hnew : p x = false) :
    ((xs.filter fun y => p y || decide (y = x)).map size).sum =
      ((xs.filter p).map size).sum + size x := by
  induction xs with
  | nil => cases hx
  | cons y xs ih =>
      rw [List.nodup_cons] at nodup
      by_cases hyx : y = x
      · subst hyx
        have hrest : (xs.filter fun z => p z || decide (z = y)) = xs.filter p := by
          apply List.filter_congr
          intro z hz
          have hne : z ≠ y := fun heq => nodup.1 (heq ▸ hz)
          simp [hne]
        simp [hnew, hrest, Nat.add_comm]
      · have hrest := ih nodup.2 ((List.mem_cons.mp hx).resolve_left (Ne.symm hyx))
        cases hpy : p y with
        | false => simp [hpy, hyx, hrest]
        | true => simp [hpy, hrest, Nat.add_assoc]

theorem sum_filter_le (size : β → Nat) (xs : List β) (p : β → Bool) :
    ((xs.filter p).map size).sum ≤ (xs.map size).sum := by
  induction xs with
  | nil => simp
  | cons y xs ih =>
      cases hpy : p y with
      | false =>
          simp only [List.filter_cons, hpy, Bool.false_eq_true, if_false, List.map_cons,
            List.sum_cons]
          omega
      | true =>
          simp only [List.filter_cons, hpy, if_true, List.map_cons, List.sum_cons]
          omega

/-- While an element of positive size is missing, the sizes do not add up to the total. -/
theorem sum_filter_lt {x : β} (hx : x ∈ xs) (hmissing : p x = false) (hsize : 0 < size x) :
    ((xs.filter p).map size).sum < (xs.map size).sum := by
  induction xs with
  | nil => cases hx
  | cons y xs ih =>
      by_cases hyx : y = x
      · subst hyx
        have hrest := sum_filter_le size xs p
        simp only [List.filter_cons, hmissing, Bool.false_eq_true, if_false, List.map_cons,
          List.sum_cons]
        omega
      · have hrest := ih ((List.mem_cons.mp hx).resolve_left (Ne.symm hyx))
        cases hpy : p y with
        | false =>
            simp only [List.filter_cons, hpy, Bool.false_eq_true, if_false, List.map_cons,
              List.sum_cons]
            omega
        | true =>
            simp only [List.filter_cons, hpy, if_true, List.map_cons, List.sum_cons]
            omega

end sizes

/-- A map: pairs in the strict order of their keys. -/
structure OrderedMap (κ α : Type*) [LinearOrder κ] where
  entries : List (κ × α)
  sorted : SortedBy Prod.fst entries

namespace OrderedMap

def empty : OrderedMap κ α := ⟨[], List.Pairwise.nil⟩

instance : Inhabited (OrderedMap κ α) := ⟨empty⟩

/-- The value of a key. -/
def find? (map : OrderedMap κ α) (key : κ) : Option α :=
  (map.entries.find? fun entry => decide (entry.1 = key)).map Prod.snd

/-- Insert a pair, unless its key is taken. -/
def insertNew (map : OrderedMap κ α) (key : κ) (value : α) : OrderedMap κ α :=
  match h : insertByKey Prod.fst (key, value) map.entries with
  | some entries => ⟨entries, insertByKey_sorted map.sorted h⟩
  | none => map

/-- Keep the pairs that `p` selects. -/
def filter (map : OrderedMap κ α) (p : κ → α → Bool) : OrderedMap κ α :=
  ⟨map.entries.filter fun entry => p entry.1 entry.2, map.sorted.filter _⟩

def erase (map : OrderedMap κ α) (key : κ) : OrderedMap κ α :=
  map.filter fun k _ => decide (k ≠ key)

/-- Give a key this value, whether it was taken or not. -/
def set (map : OrderedMap κ α) (key : κ) (value : α) : OrderedMap κ α :=
  (map.erase key).insertNew key value

/-- Erase a key when it has this value. -/
def eraseEntry [DecidableEq α] (map : OrderedMap κ α) (key : κ) (value : α) : OrderedMap κ α :=
  if map.find? key = some value then map.erase key else map

variable {map : OrderedMap κ α} {key : κ} {value : α}

/-- A pair of the map is found under its key and under no other. -/
theorem find?_eq_some : map.find? key = some value ↔ (key, value) ∈ map.entries := by
  unfold find?
  rw [Option.map_eq_some_iff]
  constructor
  · rintro ⟨⟨k, v⟩, hfound, rfl⟩
    obtain rfl : k = key := by simpa using List.find?_some hfound
    exact List.mem_of_find?_eq_some hfound
  · intro hmem
    cases hfound : map.entries.find? fun entry => decide (entry.1 = key) with
    | none =>
        have hall := List.find?_eq_none.mp hfound (key, value) hmem
        simp at hall
    | some entry =>
        have hkey : entry.1 = key := by simpa using List.find?_some hfound
        have heq : entry = (key, value) :=
          map.sorted.key_injective (List.mem_of_find?_eq_some hfound) hmem hkey
        exact ⟨entry, rfl, by rw [heq]⟩

theorem find?_eq_none : map.find? key = none ↔ ∀ entry ∈ map.entries, entry.1 ≠ key := by
  unfold find?
  simp

@[simp] theorem find?_empty : (empty : OrderedMap κ α).find? key = none := rfl

theorem ext_find? {map other : OrderedMap κ α} {key : κ}
    (same : ∀ value, (key, value) ∈ map.entries ↔ (key, value) ∈ other.entries) :
    map.find? key = other.find? key := by
  ext value
  rw [find?_eq_some, find?_eq_some, same]

theorem mem_filter {p : κ → α → Bool} {entry : κ × α} :
    entry ∈ (map.filter p).entries ↔ entry ∈ map.entries ∧ p entry.1 entry.2 = true := by
  simp [filter]

theorem mem_erase {entry : κ × α} :
    entry ∈ (map.erase key).entries ↔ entry ∈ map.entries ∧ entry.1 ≠ key := by
  simp [erase, mem_filter]

theorem mem_eraseEntry [DecidableEq α] {entry : κ × α} :
    entry ∈ (map.eraseEntry key value).entries ↔ entry ∈ map.entries ∧ entry ≠ (key, value) := by
  unfold eraseEntry
  split_ifs with hown
  · rw [mem_erase]
    apply and_congr_right
    intro hentry
    apply not_congr
    constructor
    · intro hkey
      exact map.sorted.key_injective hentry (find?_eq_some.mp hown) hkey
    · intro heq
      rw [heq]
  · rw [iff_self_and]
    intro hentry heq
    exact hown (find?_eq_some.mpr (heq ▸ hentry))

/-- Inserting under a taken key changes nothing. -/
theorem insertNew_of_taken {old : α} (htaken : map.find? key = some old) :
    map.insertNew key value = map := by
  have hmem := find?_eq_some.mp htaken
  have hnone : insertByKey Prod.fst (key, value) map.entries = none :=
    (insertByKey_eq_none map.sorted).mpr ⟨(key, old), hmem, rfl⟩
  unfold insertNew
  split
  · rename_i h
    rw [hnone] at h
    cases h
  · rfl

theorem mem_insertNew (hfree : map.find? key = none) {entry : κ × α} :
    entry ∈ (map.insertNew key value).entries ↔ entry = (key, value) ∨ entry ∈ map.entries := by
  unfold insertNew
  split
  · rename_i entries h
    exact mem_insertByKey h
  · rename_i h
    obtain ⟨taken, hmem, hkey⟩ := (insertByKey_eq_none map.sorted).mp h
    exact absurd hkey (find?_eq_none.mp hfree taken hmem)

theorem insertNew_perm (hfree : map.find? key = none) :
    (map.insertNew key value).entries.Perm ((key, value) :: map.entries) := by
  have hnew : (key, value) ∉ map.entries := by
    intro hmem
    exact find?_eq_none.mp hfree _ hmem rfl
  apply (List.perm_ext_iff_of_nodup (map.insertNew key value).sorted.nodup
    (List.nodup_cons.mpr ⟨hnew, map.sorted.nodup⟩)).mpr
  intro entry
  rw [mem_insertNew hfree, List.mem_cons]

theorem find?_insertNew_self (hfree : map.find? key = none) :
    (map.insertNew key value).find? key = some value := by
  rw [find?_eq_some, mem_insertNew hfree]
  exact .inl rfl

theorem find?_insertNew_of_ne {other : κ} (hne : other ≠ key) :
    (map.insertNew key value).find? other = map.find? other := by
  cases hfree : map.find? key with
  | some old => rw [insertNew_of_taken hfree]
  | none =>
      apply ext_find?
      intro v
      rw [mem_insertNew hfree]
      simp [hne]

/-- A value that the map does not have is at the key that it is inserted at. -/
theorem find?_insertNew_new (hnew : ∀ other, (other, value) ∉ map.entries) {other : κ} :
    (map.insertNew key value).find? other = some value ↔
      other = key ∧ map.find? key = none := by
  constructor
  · intro hfind
    cases hfree : map.find? key with
    | some old =>
        rw [insertNew_of_taken hfree] at hfind
        exact absurd (find?_eq_some.mp hfind) (hnew other)
    | none =>
        rcases (mem_insertNew hfree).mp (find?_eq_some.mp hfind) with hentry | hold
        · exact ⟨congrArg Prod.fst hentry, rfl⟩
        · exact absurd hold (hnew other)
  · rintro ⟨rfl, hfree⟩
    exact find?_insertNew_self hfree

@[simp] theorem find?_erase_self : (map.erase key).find? key = none := by
  rw [find?_eq_none]
  intro entry hentry
  exact (mem_erase.mp hentry).2

theorem find?_erase_of_ne {other : κ} (hne : other ≠ key) :
    (map.erase key).find? other = map.find? other := by
  apply ext_find?
  intro v
  simp [mem_erase, hne]

@[simp] theorem find?_set_self : (map.set key value).find? key = some value :=
  find?_insertNew_self find?_erase_self

theorem find?_set_of_ne {other : κ} (hne : other ≠ key) :
    (map.set key value).find? other = map.find? other := by
  rw [set, find?_insertNew_of_ne hne, find?_erase_of_ne hne]

theorem find?_filter {p : κ → α → Bool} :
    (map.filter p).find? key = (map.find? key).filter (p key) := by
  ext v
  rw [find?_eq_some, mem_filter, ← find?_eq_some, Option.filter_eq_some_iff]

/-- A map is its pairs. -/
theorem ext_entries {map other : OrderedMap κ α}
    (same : ∀ entry, entry ∈ map.entries ↔ entry ∈ other.entries) : map = other := by
  have hperm : map.entries.Perm other.entries :=
    (List.perm_ext_iff_of_nodup map.sorted.nodup other.sorted.nodup).mpr same
  have hentries : map.entries = other.entries :=
    hperm.eq_of_pairwise (fun _ _ _ _ hlt hgt => absurd hgt hlt.asymm) map.sorted other.sorted
  cases map
  cases other
  congr

/-- Inserting pairs of distinct new keys, one after the other, adds exactly these pairs. -/
theorem mem_foldl_insertNew {pairs : List (κ × α)} (distinct : (pairs.map Prod.fst).Nodup)
    (hfree : ∀ pair ∈ pairs, map.find? pair.1 = none) {entry : κ × α} :
    entry ∈ (pairs.foldl (fun m pair => m.insertNew pair.1 pair.2) map).entries ↔
      entry ∈ map.entries ∨ entry ∈ pairs := by
  induction pairs generalizing map with
  | nil => simp
  | cons pair pairs ih =>
      rw [List.map_cons, List.nodup_cons] at distinct
      have hfirst := hfree pair List.mem_cons_self
      have hrest : ∀ other ∈ pairs, (map.insertNew pair.1 pair.2).find? other.1 = none := by
        intro other hother
        have hne : other.1 ≠ pair.1 := by
          intro heq
          exact distinct.1 (heq ▸ List.mem_map_of_mem hother)
        rw [find?_insertNew_of_ne hne]
        exact hfree other (List.mem_cons_of_mem _ hother)
      rw [List.foldl_cons, ih distinct.2 hrest, mem_insertNew hfirst, List.mem_cons]
      tauto

end OrderedMap

end OrkAudio.Lib
